/-
This file embeds `urlsplit` and `urlunsplit` of the language's library on lists of characters.
The tables of Unicode and the address parser are parameters.
-/

import OperationsConsole.Library.Splitting

namespace OperationsConsole.Redaction

open Library

abbrev Text := List Char

/-- The library reads these functions from tables and from its address parser. The lower case of a
text introduces none of the delimiters that a URL may not show. -/
structure Unicode where
  lower : Text → Text
  nfkc : Text → Text
  isIPv6 : Text → Bool
  lower_keeps : ∀ text, ∀ symbol ∈ lower text, symbol ∈ ['@', '?', '#'] → symbol ∈ text

/-- The library rejects a URL with one of these errors. -/
inductive ValueError where
  | invalidIPv6
  | bracketedHost
  | normalization
  | port
  deriving DecidableEq

structure SplitResult where
  scheme : Text
  netloc : Text
  path : Text
  query : Text
  fragment : Text
  deriving DecidableEq

def isDelimiter (symbol : Char) : Bool := symbol == '/' || symbol == '?' || symbol == '#'

def isSchemeChar (symbol : Char) : Bool :=
  symbol.isAlphanum || symbol == '+' || symbol == '-' || symbol == '.'

/-- A scheme is not empty and begins with a letter. -/
def isScheme (text : Text) : Bool := text.head?.any Char.isAlpha && text.all isSchemeChar

/-- The scheme ends at the first colon, or the URL has none. -/
def splitScheme (unicode : Unicode) (url : Text) : Text × Text :=
  let head := before (· == ':') url
  if url.contains ':' && isScheme head then (unicode.lower head, afterFirst (· == ':') url)
  else ([], url)

/-- The location follows two slashes. -/
def splitNetloc (url : Text) : Text × Text :=
  if ['/', '/'] <+: url then (before isDelimiter (url.drop 2), fromFirst isDelimiter (url.drop 2))
  else ([], url)

def isHexDigit (symbol : Char) : Bool :=
  symbol.isDigit || ('a' ≤ symbol && symbol ≤ 'f') || ('A' ≤ symbol && symbol ≤ 'F')

def checkBracketedHost (unicode : Unicode) (hostname : Text) : Except ValueError Unit :=
  if hostname.head? = some 'v' then
    let digits := before (fun symbol => !isHexDigit symbol) hostname.tail
    let version := fromFirst (fun symbol => !isHexDigit symbol) hostname.tail
    if digits ≠ [] ∧ version.head? = some '.' ∧ version.tail ≠ [] ∧ '\n' ∉ version.tail then .ok ()
    else .error .bracketedHost
  else if unicode.isIPv6 hostname then .ok ()
  else .error .bracketedHost

/-- No data is allowed before the brackets, nor between them and the port. -/
def checkBracketedNetloc (unicode : Unicode) (netloc : Text) : Except ValueError Unit :=
  let hostnameAndPort := afterLast (· == '@') netloc
  let bracketed := afterFirst (· == '[') hostnameAndPort
  if hostnameAndPort.contains '[' then
    let port := afterFirst (· == ']') bracketed
    if before (· == '[') hostnameAndPort ≠ [] then .error .invalidIPv6
    else if port ≠ [] ∧ port.head? ≠ some ':' then .error .invalidIPv6
    else checkBracketedHost unicode (before (· == ']') bracketed)
  else checkBracketedHost unicode (before (· == ':') hostnameAndPort)

def checkBrackets (unicode : Unicode) (netloc : Text) : Except ValueError Unit :=
  if netloc.contains '[' ≠ netloc.contains ']' then .error .invalidIPv6
  else if netloc.contains '[' then checkBracketedNetloc unicode netloc
  else .ok ()

/-- Some characters expand to a delimiter under normalization. -/
def checkNetloc (unicode : Unicode) (netloc : Text) : Except ValueError Unit :=
  let plain := netloc.filter fun symbol => symbol ∉ ['@', ':', '#', '?']
  if netloc.all fun symbol => symbol.toNat < 128 then .ok ()
  else if plain = unicode.nfkc plain then .ok ()
  else if (unicode.nfkc plain).any fun symbol => symbol ∈ ['/', '?', '#', '@', ':'] then
    .error .normalization
  else .ok ()

/-- Leading control characters and blanks are stripped, and some characters are dropped anywhere. -/
def strippedUrl (target : Text) : Text :=
  (target.dropWhile fun symbol => symbol.toNat ≤ 32).filter fun symbol =>
    symbol ∉ ['\t', '\r', '\n']

/-- The rest of a URL after its location is read from the back. -/
def splitRest (scheme netloc url : Text) : SplitResult where
  scheme := scheme
  netloc := netloc
  path := before (· == '?') (before (· == '#') url)
  query := afterFirst (· == '?') (before (· == '#') url)
  fragment := afterFirst (· == '#') url

def urlsplit (unicode : Unicode) (target : Text) : Except ValueError SplitResult := do
  let schemed := splitScheme unicode (strippedUrl target)
  let located := splitNetloc schemed.2
  checkBrackets unicode located.1
  checkNetloc unicode located.1
  return splitRest schemed.1 located.1 located.2

namespace SplitResult

/-- The host and the port follow the last at-sign. -/
def hostinfo (parts : SplitResult) : Text × Text :=
  let info := afterLast (· == '@') parts.netloc
  let bracketed := afterFirst (· == '[') info
  if info.contains '[' then
    (before (· == ']') bracketed, afterFirst (· == ':') (afterFirst (· == ']') bracketed))
  else (before (· == ':') info, afterFirst (· == ':') info)

def userinfo (parts : SplitResult) : Text := beforeLast (· == '@') parts.netloc

/-- The zone of a scoped address keeps its case. -/
def hostname (unicode : Unicode) (parts : SplitResult) : Text :=
  let host := parts.hostinfo.1
  if host = [] then []
  else unicode.lower (before (· == '%') host) ++ fromFirst (· == '%') host

def readNumber (digits : Text) : Nat :=
  digits.foldl (fun number digit => 10 * number + (digit.toNat - 48)) 0

def port (parts : SplitResult) : Except ValueError (Option Nat) :=
  let digits := parts.hostinfo.2
  if digits = [] then .ok none
  else if digits.all Char.isDigit then
    if readNumber digits ≤ 65535 then .ok (some (readNumber digits)) else .error .port
  else .error .port

end SplitResult

/-- This is `urlunsplit` for parts that have a location. -/
def urlunsplit (parts : SplitResult) : Text :=
  let rooted := if parts.path ≠ [] ∧ parts.path.head? ≠ some '/' then '/' :: parts.path
    else parts.path
  let located := ['/', '/'] ++ parts.netloc ++ rooted
  let schemed := if parts.scheme = [] then located else parts.scheme ++ [':'] ++ located
  let queried := if parts.query = [] then schemed else schemed ++ ['?'] ++ parts.query
  if parts.fragment = [] then queried else queried ++ ['#'] ++ parts.fragment

end OperationsConsole.Redaction
