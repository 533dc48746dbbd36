/-
This file embeds how `history.py` reads an answer of VictoriaMetrics and folds its series.
The body of an answer is any JSON value, and every operation on it may raise an exception.
-/

import Mathlib.Data.List.Sort
import OperationsConsole.Events.Detector
import OperationsConsole.Library.Dict
import OperationsConsole.Library.Doubles

namespace OperationsConsole.History

open Library

/-- A time is a key of a dictionary. A text that reads as no number is a new key each time, which is
told by the places of its series and of its sample. -/
structure Instant where
  time : Double
  place : Option (ℕ × ℕ) := none
  deriving DecidableEq

/-- A sample of a range query has a time and a number. -/
structure TimedValue where
  instant : Instant
  value : ℚ
  deriving DecidableEq

def TimedValue.time (point : TimedValue) : Double := point.instant.time

/-- The language reads some texts as numbers, rounds the results of its arithmetic, adds the numbers
of a list, and writes a date. The platform decides with which exception it refuses a time, and how it
arranges times when some of them are no numbers, which compare with nothing. -/
structure Python where
  float : PyText → Option Double
  nearest : ℚ → Double
  sum : List ℚ → Double
  isoformat : ℚ → String
  undated : ℚ → Raised
  arrange : List Instant → List Instant
  arrangeValues : List TimedValue → List TimedValue
  arrange_perm : ∀ times, (arrange times).Perm times
  arrangeValues_perm : ∀ values, (arrangeValues values).Perm values

namespace Python

variable (python : Python)

/-- This is `float`. An integer may be too large. -/
def toFloat : Json → Except Raised Double
  | .bool value => .ok (.finite (if value then 1 else 0))
  | .int value =>
      if (python.nearest value).isFinite then .ok (python.nearest value) else .error .overflowError
  | .float value => .ok value
  | .text value => match python.float value with
      | some number => .ok number
      | none => .error .valueError
  | _ => .error .typeError

/-- This is `float` for a time. The literal of JSON for no number is one object, and a text makes a
new one. -/
def instant (place : ℕ × ℕ) (ts : Json) : Except Raised Instant := do
  let time ← python.toFloat ts
  return ⟨time, if time = .nan ∧ ts.isText then some place else none⟩

/-- This is `_number`. It catches the errors of a value that is no number, and it drops a number
that is not finite. -/
def number (raw : Json) : Except Raised (Option ℚ) :=
  match python.toFloat raw with
  | .ok (.finite value) => .ok (some value)
  | .ok _ => .ok none
  | .error .typeError => .ok none
  | .error .valueError => .ok none
  | .error exception => .error exception

/-- The first second of the dates, and the first second after them. -/
def firstDate : ℚ := -62135596800

def lastDate : ℚ := 253402300800

/-- This is `_iso`. The dates are those of the years 1 to 9999. -/
def iso : Double → Except Raised String
  | .finite value =>
      if firstDate ≤ value ∧ value < lastDate then .ok (python.isoformat value)
      else .error (python.undated value)
  | .infinite _ => .error .overflowError
  | .nan => .error .valueError

end Python

/-- This is `round`. -/
def roundDouble : Double → Except Raised ℤ
  | .finite value => .ok (roundHalfEven value)
  | .infinite _ => .error .overflowError
  | .nan => .error .valueError

/-- VictoriaMetrics does not answer usefully, or an exception of another class escapes. -/
inductive Failure where
  | historyUnavailable (reason : String)
  | raised (exception : Raised)
  deriving DecidableEq

structure Answer where
  status : Nat
  body : JsonBody

/-- The rows of a result. -/
def rowsOf (body : Json) : Except Raised (List Json) := do
  let data ← body.get "data" (.dict [])
  let result ← data.get "result" (.list [])
  result.iterate

/-- An exception of this class is a `ValueError`. -/
def isValueError (exception : Raised) : Bool :=
  exception = .valueError || exception = .jsonDecodeError || exception = .unicodeEncodeError

/-- This is `_fetch`. An error of the transport and a `ValueError` of the request are caught. -/
def fetch (answer : Except RequestFailure Answer) : Except Failure (List Json) :=
  match answer with
  | .error (.httpError name) => .error (.historyUnavailable name)
  | .error (.raised exception) =>
      if isValueError exception then .error (.historyUnavailable "ValueError")
      else .error (.raised exception)
  | .ok answer =>
      if ¬(200 ≤ answer.status ∧ answer.status < 300) then
        .error (.historyUnavailable "HTTPStatusError")
      else match answer.body with
        | .malformed name => .error (.historyUnavailable name)
        | .tooDeep => .error (.raised .recursionError)
        | .read body =>
            if body.isDict && (body.field "status" .null).isTextOf "success" then
              match rowsOf body with
              | .ok rows => .ok rows
              | .error exception => .error (.raised exception)
            else .error (.historyUnavailable "query failed")

/-- Queries run together, and the first of them that fails decides how they end. -/
inductive Gathered {α : Type} (outcomes : List (Except Failure α)) :
    Except Failure (List α) → Prop where
  | all (values : List α) : outcomes = values.map .ok → Gathered outcomes (.ok values)
  | first (failure : Failure) : .error failure ∈ outcomes → Gathered outcomes (.error failure)

section Merging

variable (python : Python) (label : String)

/-- A sample tells a field a number at a time, unless its value is no finite number. -/
structure Told where
  field : String
  instant : Instant
  value : Option ℚ

def sample (field : String) (place : ℕ × ℕ) (item : Json) : Except Raised Told := do
  let (ts, raw) ← item.unpack
  let value ← python.number raw
  let instant ← python.instant place ts
  return ⟨field, instant, value⟩

/-- The samples of the series with an index. -/
def samplesOf (index : ℕ) (entry : String × Json) : Except Raised (List Told) := do
  let items ← (← entry.2.get "values" (.list [])).iterate
  items.zipIdx.mapM fun item => sample python entry.1 (index, item.2) item.1

def keyOf (series : Json) : Except Raised Json := do
  (← series.get "metric" (.dict [])).get label .null

abbrev Points := Dict Instant (Dict String (Option ℚ))

/-- A dictionary keeps the key that it saw first. -/
abbrev Merged := Dict Label (Json × Points)

def addSample (points : Points) (told : Told) : Points :=
  points.set told.instant
    (((points.get? told.instant).getD .empty).set told.field told.value)

/-- A series without the label is skipped. -/
def mergeSeries (merged : Merged) (series : (String × Json) × ℕ) : Except Raised Merged := do
  match ← keyOf label series.1.2 with
  | .null => return merged
  | key =>
      let hashed ← key.hash
      let samples ← samplesOf python series.2 series.1
      let held := (merged.get? hashed).getD (key, .empty)
      return merged.set hashed (held.1, samples.foldl addSample held.2)

/-- The series of all fields, in order. -/
def allSeries (results : List (String × List Json)) : List (String × Json) :=
  results.flatMap fun result => result.2.map fun series => (result.1, series)

def merge (results : List (String × List Json)) : Except Raised Merged :=
  (allSeries results).zipIdx.foldlM (mergeSeries python label) .empty

end Merging

/-- Texts are in the order of their code points. -/
def Symbol.code : Symbol → Nat
  | .scalar char => char.toNat
  | .surrogate unit => 0xD800 + unit

def textBefore (first second : PyText) : Prop :=
  ¬second.map Symbol.code < first.map Symbol.code

instance : DecidableRel textBefore := fun _ _ => inferInstanceAs (Decidable (¬_))

def isText : Label → Bool
  | .text _ => true
  | _ => false

def isNumber : Label → Bool
  | .number _ => true
  | _ => false

def labelBefore (first second : Label) : Prop :=
  match first, second with
  | .text first, .text second => textBefore first second
  | .number first, .number second => second.lt first = false
  | _, _ => True

instance : DecidableRel labelBefore := fun first second =>
  match first, second with
  | .text first, .text second => inferInstanceAs (Decidable (textBefore first second))
  | .number first, .number second => inferInstanceAs (Decidable (second.lt first = false))
  | .text _, .number _ | .text _, .null | .number _, .text _ | .number _, .null | .null, _ =>
      isTrue (by cases second <;> trivial)

/-- A text and a number do not compare. -/
def sortLabels (labels : List Label) : Except Raised (List Label) :=
  if labels.all isText || labels.all isNumber || labels.length ≤ 1 then
    .ok (labels.insertionSort labelBefore)
  else .error .typeError

end OperationsConsole.History
