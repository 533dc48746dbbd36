/-
This file embeds the query parameters of the admin proxy's routes. The framework reads each one,
checks its rule, and refuses the request if one fails. The handler forwards those that are present.
-/

import OperationsConsole.Redaction.QueryString

namespace OperationsConsole.Proxy

open Library
open Redaction (Text)

section Rules

/-- A parameter is a number within bounds, or a text that a pattern accepts. -/
inductive Rule where
  | number (low : ℤ) (high : Option ℤ)
  | pattern (accepts : Text → Bool)

structure Parameter where
  name : Text
  rule : Rule

/-- The last value of a repeated name is taken. -/
def lastValue (query : List (Text × Text)) (name : Text) : Option Text :=
  (query.reverse.find? fun pair => pair.1 = name).map Prod.snd

/-- This is `str` of an integer. -/
def decimal (number : ℤ) : Text :=
  if number < 0 then '-' :: Nat.toDigits 10 number.natAbs else Nat.toDigits 10 number.natAbs

variable (readInt : Text → Option ℤ)

/-- The value that is forwarded for a value that keeps the rule. -/
def Rule.forward : Rule → Text → Option Text
  | .number low high, value => do
      let number ← readInt value
      if low ≤ number ∧ ∀ bound ∈ high, number ≤ bound then some (decimal number) else none
  | .pattern accepts, value => if accepts value then some value else none

/-- An absent parameter keeps every rule. -/
def Parameter.forward (query : List (Text × Text)) (parameter : Parameter) :
    Option (Option (Text × Text)) :=
  match lastValue query parameter.name with
  | none => some none
  | some value => (parameter.rule.forward readInt value).map fun sent => some (parameter.name, sent)

/-- There is no result when the framework answers with 422. -/
def proxyParams (parameters : List Parameter) (query : List (Text × Text)) :
    Option (List (Text × Text)) :=
  (parameters.mapM (Parameter.forward readInt query)).map (List.filterMap id)

end Rules

section Patterns

-- The pattern engine reads more digits than the ASCII ones.
variable (digit : Char → Bool)

def isMonth (first second : Char) : Bool :=
  first = '0' && ('1' ≤ second && second ≤ '9') || first = '1' && ('0' ≤ second && second ≤ '2')

def isDay (first second : Char) : Bool :=
  first = '0' && ('1' ≤ second && second ≤ '9') || (first = '1' || first = '2') && digit second ||
    first = '3' && (second = '0' || second = '1')

def isHour (first second : Char) : Bool :=
  (first = '0' || first = '1') && digit second || first = '2' && ('0' ≤ second && second ≤ '3')

def isSixty (first second : Char) : Bool := ('0' ≤ first && first ≤ '5') && digit second

def isZone : Text → Bool
  | ['Z'] => true
  | [sign, hour, ofHour, ':', minute, ofMinute] =>
      (sign = '+' || sign = '-') && isHour digit hour ofHour && isSixty digit minute ofMinute
  | _ => false

/-- A fraction has one to six digits. -/
def isFractionZone : Text → Bool
  | '.' :: rest =>
      let digits := rest.takeWhile digit
      (1 ≤ digits.length && digits.length ≤ 6) && isZone digit (rest.dropWhile digit)
  | rest => isZone digit rest

/-- This is the pattern `_RFC3339`. -/
def rfc3339 : Text → Bool
  | y₁ :: y₂ :: y₃ :: y₄ :: '-' :: m₁ :: m₂ :: '-' :: d₁ :: d₂ :: 'T' :: h₁ :: h₂ :: ':' :: i₁ ::
      i₂ :: ':' :: s₁ :: s₂ :: rest =>
      (digit y₁ && digit y₂ && digit y₃ && digit y₄) && isMonth m₁ m₂ && isDay digit d₁ d₂ &&
        isHour digit h₁ h₂ && isSixty digit i₁ i₂ && isSixty digit s₁ s₂ && isFractionZone digit rest
  | _ => false

def ledgerEvents : List Text :=
  ["linked_at_ingest".toList, "reattached".toList, "promoted".toList, "reverted".toList,
    "evidence_attached".toList, "alias_closed".toList, "link_added".toList,
    "link_changed".toList, "link_removed".toList]

def ledgerKinds : List Text :=
  ["release".toList, "master".toList, "artist".toList, "label".toList]

def ledgerMaxEditionLimit : ℤ := 500

def isLower (symbol : Char) : Bool := 'a' ≤ symbol && symbol ≤ 'z'

def isPlainDigit (symbol : Char) : Bool := '0' ≤ symbol && symbol ≤ '9'

/-- A pattern of one or more characters of a class. -/
def runOf (member : Char → Bool) (text : Text) : Bool := text ≠ [] && text.all member

/-- This is the pattern `^[a-z][a-z0-9_.]+$`. -/
def isAction : Text → Bool
  | [] => false
  | first :: rest => isLower first &&
      runOf (fun symbol => isLower symbol || isPlainDigit symbol || symbol = '_' || symbol = '.') rest

/-- This is the pattern `^[a-f0-9-]+$`. -/
def isAdminId : Text → Bool :=
  runOf fun symbol => ('a' ≤ symbol && symbol ≤ 'f') || isPlainDigit symbol || symbol = '-'

/-- This is the pattern `^[a-z-]+$`. -/
def isEntityType : Text → Bool := runOf fun symbol => isLower symbol || symbol = '-'

/-- This is the pattern `^[a-zA-Z0-9_-]+$`. -/
def isRuleName : Text → Bool :=
  runOf fun symbol => symbol.isAlphanum || symbol = '_' || symbol = '-'

def severities : List Text := ["error".toList, "warning".toList, "info".toList]

def pageParameter : Parameter := ⟨"page".toList, .number 1 none⟩

def pageSizeParameter (high : ℤ) : Parameter := ⟨"page_size".toList, .number 1 (some high)⟩

/-- These are the parameters of `proxy_audit_log`. -/
def auditLogParameters : List Parameter :=
  [pageParameter, pageSizeParameter 100, ⟨"action".toList, .pattern isAction⟩,
    ⟨"admin_id".toList, .pattern isAdminId⟩]

/-- These are the parameters of `proxy_identity_ledger_works`. -/
def ledgerWorksParameters : List Parameter :=
  [pageParameter, pageSizeParameter 100, ⟨"event".toList, .pattern ledgerEvents.contains⟩,
    ⟨"since".toList, .pattern (rfc3339 digit)⟩, ⟨"until".toList, .pattern (rfc3339 digit)⟩]

/-- These are the parameters of `proxy_identity_ledger_work`. -/
def ledgerWorkParameters : List Parameter :=
  [⟨"as_of".toList, .pattern (rfc3339 digit)⟩,
    ⟨"edition_limit".toList, .number 1 (some ledgerMaxEditionLimit)⟩]

/-- These are the parameters of `proxy_identity_ledger_density`. -/
def ledgerDensityParameters : List Parameter := [⟨"kind".toList, .pattern ledgerKinds.contains⟩]

/-- These are the parameters of `proxy_ea_skipped`. -/
def skippedParameters : List Parameter :=
  [⟨"entity_type".toList, .pattern isEntityType⟩, pageParameter, pageSizeParameter 200]

/-- These are the parameters of `proxy_ea_violations`. -/
def violationsParameters : List Parameter :=
  [⟨"entity_type".toList, .pattern isEntityType⟩, ⟨"severity".toList, .pattern severities.contains⟩,
    ⟨"rule".toList, .pattern isRuleName⟩, pageParameter, pageSizeParameter 200]

end Patterns

section Forwarding

variable (readInt : Text → Option ℤ) (query : List (Text × Text))

/-- The parameters that a query gives, in the order of the route. -/
def given (parameters : List Parameter) : List (Text × Text) :=
  parameters.filterMap fun parameter =>
    (lastValue query parameter.name).map fun value => (parameter.name, value)

/-- Every given value keeps the rule of its parameter, which forwards it unchanged. -/
def KeepsRules (parameters : List Parameter) : Prop :=
  ∀ parameter ∈ parameters, ∀ value, lastValue query parameter.name = some value →
    parameter.rule.forward readInt value = some value

theorem forward_of_keeps (parameter : Parameter)
    (keeps : ∀ value, lastValue query parameter.name = some value →
      parameter.rule.forward readInt value = some value) :
    parameter.forward readInt query =
      some ((lastValue query parameter.name).map fun value => (parameter.name, value)) := by
  unfold Parameter.forward
  cases found : lastValue query parameter.name with
  | none => rfl
  | some value =>
      dsimp only
      rw [keeps value found]
      rfl

/-- A query that keeps the rules is forwarded as it is given. -/
theorem proxyParams_of_keepsRules (parameters : List Parameter)
    (keeps : KeepsRules readInt query parameters) :
    proxyParams readInt parameters query = some (given query parameters) := by
  have all : parameters.mapM (Parameter.forward readInt query) =
      some (parameters.map fun parameter =>
        (lastValue query parameter.name).map fun value => (parameter.name, value)) := by
    induction parameters with
    | nil => rfl
    | cons parameter rest ih =>
        rw [List.mapM_cons,
          forward_of_keeps readInt query parameter (keeps parameter List.mem_cons_self),
          ih fun other member => keeps other (List.mem_cons_of_mem parameter member)]
        rfl
  rw [proxyParams, all, Option.map_some, List.filterMap_map]
  rfl

theorem given_cons (parameter : Parameter) (rest : List Parameter) :
    given query (parameter :: rest) =
      ((lastValue query parameter.name).map fun value => (parameter.name, value)).toList ++
        given query rest := by
  unfold given
  cases found : lastValue query parameter.name with
  | none => rw [List.filterMap_cons_none (by rw [found]; rfl)]; rfl
  | some value => rw [List.filterMap_cons_some (by rw [found]; rfl)]; rfl

end Forwarding

end OperationsConsole.Proxy
