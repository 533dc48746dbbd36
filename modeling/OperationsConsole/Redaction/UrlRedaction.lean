/-
This file embeds `is_ambiguous` and `redact_url` of `dashboard/url_redaction.py`.
A target that could be read in two ways is replaced by a fixed marker.
-/

import OperationsConsole.Redaction.UrlSplit

namespace OperationsConsole.Redaction

open Library

def redactedUrl : Text := "<redacted url>".toList

/-- These are the characters that `str.isspace` accepts. -/
def isSpace (symbol : Char) : Bool :=
  let code := symbol.toNat
  (9 ≤ code && code ≤ 13) || (28 ≤ code && code ≤ 32) || code == 0x85 || code == 0xA0 ||
    code == 0x1680 || (0x2000 ≤ code && code ≤ 0x200A) || code == 0x2028 || code == 0x2029 ||
    code == 0x202F || code == 0x205F || code == 0x3000

/-- These are the control characters of ASCII. -/
def isControl (symbol : Char) : Bool := symbol.toNat < 32 || symbol.toNat == 127

def schemeSeparator : Text := [':', '/', '/']

def isAmbiguous (unicode : Unicode) (target : Text) : Bool :=
  if target.any fun symbol => isSpace symbol || isControl symbol then true
  else
    match partitionAt schemeSeparator target with
    | none =>
        let authority := before isDelimiter target
        let tail := fromFirst isDelimiter target
        decide (1 < authority.count '@') || tail.contains '@' || authority.contains '\\'
    | some (_, rest) =>
        let reading := do
          let parts ← urlsplit unicode target
          let _ ← parts.port
          return parts
        match reading with
        | .error _ => true
        | .ok parts =>
            decide (before isDelimiter rest ≠ parts.netloc) ||
              decide (1 < parts.netloc.count '@') || parts.netloc.contains '\\' ||
                (parts.path ++ parts.query ++ parts.fragment).contains '@'

/-- A host with a colon is shown in brackets. -/
def shownHost (host : Text) : Text := if host.contains ':' then ['['] ++ host ++ [']'] else host

def redactUrl (unicode : Unicode) (target : Text) : Except ValueError Text :=
  if isAmbiguous unicode target then return redactedUrl
  else
    match partitionAt schemeSeparator target with
    | none => return afterLast (· == '@') (before (· == '#') (before (· == '?') target))
    | some _ =>
        tryCatch
          (do
            let parts ← urlsplit unicode target
            let host := shownHost (parts.hostname unicode)
            let port ← parts.port
            let netloc := match port with
              | none => host
              | some number => host ++ [':'] ++ Nat.toDigits 10 number
            if host = [] then return redactedUrl
            else return urlunsplit ⟨parts.scheme, netloc, parts.path, [], []⟩)
          fun _ => return redactedUrl

/-- A reading of a target divides it into these parts. -/
structure HandSplit where
  scheme : Text
  userinfo : Text
  host : Text
  path : Text
  query : Text
  fragment : Text

/-- The authority ends at the first slash, question mark, or hash after the separator. -/
def handAuthority (target : Text) : Text :=
  before isDelimiter ((partitionAt schemeSeparator target).elim target Prod.snd)

/-- A target with a scheme separator is split by hand. -/
def handSplit (target : Text) : Option HandSplit :=
  (partitionAt schemeSeparator target).map fun parts =>
    let authority := before isDelimiter parts.2
    let tail := fromFirst isDelimiter parts.2
    { scheme := parts.1
      userinfo := beforeLast (· == '@') authority
      host := afterLast (· == '@') authority
      path := before (· == '?') (before (· == '#') tail)
      query := afterFirst (· == '?') (before (· == '#') tail)
      fragment := afterFirst (· == '#') tail }

end OperationsConsole.Redaction
