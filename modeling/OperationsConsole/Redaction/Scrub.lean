/-
This file embeds `scrub` and `redact_text` of `dashboard/url_redaction.py` with the probe reading.
A text may carry a mark on each of its characters, and the functions decide by the characters.
-/

import OperationsConsole.Events.Readings
import OperationsConsole.Library.Rewriting
import OperationsConsole.Redaction.Quoting
import OperationsConsole.Redaction.UrlRedaction

namespace OperationsConsole.Redaction

open Library

/-- A set of texts yields each of its members once, in an order of its own. -/
structure Interpreter extends Unicode where
  enumerate : List Text → List Text
  nodup_enumerate : ∀ texts, (enumerate texts).Nodup
  mem_enumerate : ∀ texts text, text ∈ enumerate texts ↔ text ∈ texts

def redacted : Text := "<redacted>".toList

/-- `redact_url` never raises, and its callers use its value. -/
def shownUrl (unicode : Unicode) (target : Text) : Text :=
  match redactUrl unicode target with
  | .ok shown => shown
  | .error _ => []

/-- These pieces of a target are split by hand. -/
def sensitivePieces (target : Text) : List Text :=
  let rest := (partitionAt schemeSeparator target).elim target Prod.snd
  let fragment := afterFirst (· == '#') rest
  let query := afterFirst (· == '?') (before (· == '#') rest)
  let authority := before (· == '/') (before (· == '?') (before (· == '#') rest))
  let userinfo := if authority.contains '@' then beforeLast (· == '@') authority else []
  [userinfo, before (· == ':') userinfo, afterFirst (· == ':') userinfo, query, fragment] ++
    (query.splitOn '&').map (afterFirst (· == '='))

def variants (piece : Text) : List Text :=
  [piece, unquote piece, quote piece, quote (unquote piece)]

/-- The parts are sorted by their lengths, the longest first. -/
def sensitiveParts (interpreter : Interpreter) (target : Text) : List Text :=
  ((interpreter.enumerate ((sensitivePieces target).flatMap variants)).filter
    fun part => part ≠ []).mergeSort fun first second => second.length ≤ first.length

/-- The characters that end a sentence are kept out of a URL. -/
def trailing : Text := ".,;:!?)]\x7d'\"".toList

/-- A URL in a text runs from a scheme to the next whitespace. -/
def urlToken (text : Text) : Option Text :=
  let scheme := before (fun symbol => !isSchemeChar symbol) text
  let rest := fromFirst (fun symbol => !isSchemeChar symbol) text
  let body := before isSpace (rest.drop schemeSeparator.length)
  if text.head?.any Char.isAlpha && decide (schemeSeparator <+: rest) && decide (body ≠ []) then
    some (scheme ++ schemeSeparator ++ body)
  else none

def stripTrailing (token : Text) : Text :=
  (token.reverse.dropWhile fun symbol => trailing.contains symbol).reverse

section Marks

variable {α : Type} (interpreter : Interpreter) (char : α → Char) (write : Char → α)

/-- This is `scrub` on a text whose characters carry marks. -/
def scrubOn (text : List α) (target : Text) : List α :=
  if target = [] then text
  else if isAmbiguous interpreter.toUnicode target then redactedUrl.map write
  else
    let shown := replaceAll char target ((shownUrl interpreter.toUnicode target).map write) text
    (sensitiveParts interpreter target).foldl
      (fun text part => replaceAll char part (redacted.map write) text) shown

/-- The body of a URL in a text is redacted, and the characters that trail it are kept. -/
def redactToken (text : List α) : Option (Match α) :=
  (urlToken (text.map char)).map fun token =>
    let body := stripTrailing token
    ⟨(shownUrl interpreter.toUnicode body).map write, body.length, token.length - body.length⟩

/-- This is `redact_text` on a text whose characters carry marks. -/
def redactTextOn : List α → List α := rewrite (redactToken interpreter char write)

def shownError (text : List α) (target : Text) : List α :=
  if text = [] then text
  else redactTextOn interpreter char write (scrubOn interpreter char write text target)

end Marks

section Texts

variable (interpreter : Interpreter)

def scrub : Text → Text → Text := scrubOn interpreter id id

def redactText : Text → Text := redactTextOn interpreter id id

structure Probe where
  name : String
  group : String
  target : Text
  mode : String

/-- The state of a service folds its mode and its status. -/
def stateOf (mode status : String) : String :=
  if status = "disabled" ∨ status = "unconfigured" then status
  else if status ≠ "healthy" then "failed"
  else if mode = "shared" then "shared"
  else "healthy"

structure ServiceReading where
  name : String
  group : String
  status : String
  lastSeen : Option Seconds
  error : Option Text
  source : String
  mode : String
  state : String
  endpoint : Option Text

/-- This is `_reading` of the platform health. -/
def reading (now : Seconds) (probe : Probe) (status : String) (error : Option Text) :
    ServiceReading where
  name := probe.name
  group := probe.group
  status := status
  lastSeen := if status ∈ ["unreachable", "disabled", "unconfigured"] then none else some now
  error := error.map fun text => shownError interpreter id id text probe.target
  source := "probe"
  mode := probe.mode
  state := stateOf probe.mode status
  endpoint := if probe.target = [] then none
    else some (shownUrl interpreter.toUnicode probe.target)

end Texts

end OperationsConsole.Redaction
