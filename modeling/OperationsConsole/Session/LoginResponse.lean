/-
This file embeds the proxied login of `dashboard/admin_proxy.py` and the session cookie that it sets.
An answer of catalog-api is relayed, or it is replaced by the lifetime of the session.
-/

import OperationsConsole.Library.Ascii
import OperationsConsole.Library.CookieText
import OperationsConsole.Library.Json
import OperationsConsole.Session.CookieAuthority

namespace OperationsConsole.Session

open Library hiding Json

/-- A body is a JSON value, which may be nested too deeply to read, or it is no JSON. -/
inductive LoginBody where
  | read (value : Library.Json)
  | tooDeep (value : Library.Json)
  | malformed

def plainSymbol : Symbol → Option Char
  | .scalar char => some char
  | .surrogate _ => none

/-- These are the characters of a text without lone surrogates. -/
def plainText (text : PyText) : Option String := (text.mapM plainSymbol).map String.ofList

/-- A text is a usable bearer if the console accepts it in an authorization. -/
def usableBearer (text : PyText) : Option String :=
  (plainText text).bind fun raw => bearerToken (some ("Bearer " ++ raw))

def LoginBody.value : LoginBody → Library.Json
  | read value => value
  | tooDeep value => value
  | malformed => .null

/-- The bearer of a body is the usable text under its access token. -/
def LoginBody.bearer (body : LoginBody) : Option String :=
  match body.value.field "access_token" .null with
  | .text text => usableBearer text
  | _ => none

/-- A lifetime is a positive integer, and a truth value is none. -/
def positiveInteger : Library.Json → Option Nat
  | .int value => if 0 < value then some value.toNat else none
  | _ => none

def LoginBody.lifetime (body : LoginBody) : Option Nat :=
  positiveInteger (body.value.field "expires_in" .null)

def lifetimeText (lifetime : Option Nat) : String := (lifetime.map toString).getD "null"

/-- This is the body that tells the browser the lifetime. -/
def lifetimeContent (lifetime : Option Nat) : List UInt8 :=
  utf8 ("\x7b\x22expires_in\x22:" ++ lifetimeText lifetime ++ "\x7d")

def unusableContent : List UInt8 :=
  utf8 "\x7b\x22detail\x22:\x22catalog-api returned no usable session\x22\x7d"

def malformedContent : List UInt8 :=
  utf8 "\x7b\x22detail\x22:\x22Malformed JSON in request body\x22\x7d"

/-- The JSON reader of the language finds no access token in the bodies that tell a lifetime. -/
structure Decoder where
  loads : List UInt8 → LoginBody
  silent : ∀ lifetime, (loads (lifetimeContent lifetime)).bearer = none

/-- The value of a cookie is quoted on its way. -/
structure SetCookie where
  name : String
  value : List Char
  maxAge : Option Nat
  path : String := "/"
  secure : Bool
  httpOnly : Bool := true
  sameSite : String := "strict"

structure LoginResponse extends ProxyResponse where
  cacheControl : Option String := none
  setCookie : Option SetCookie := none

def SessionCookie.set (cookie : SessionCookie) (token : String) (maxAge : Option Nat) :
    SetCookie where
  name := cookie.name
  value := CookieText.quote token.toList
  maxAge := maxAge
  secure := cookie.secure

/-- Only a dictionary has a key of a text. -/
def subscript (value : Library.Json) (key : String) : Except Raised Library.Json :=
  match value with
  | .dict items => match items.lookup (literal key) with
      | some found => .ok found
      | none => .error .keyError
  | _ => .error .typeError

section Login

variable (decoder : Decoder) (cookie : SessionCookie)

/-- The reader raises an exception for a body that is no JSON or that is nested too deeply. -/
def issued (body : List UInt8) : Except Raised Library.Json :=
  match decoder.loads body with
  | .read value => .ok value
  | .tooDeep _ => .error .recursionError
  | .malformed => .error .valueError

def credentials (body : List UInt8) : Except Raised (Library.Json × Library.Json) := do
  let issued ← issued decoder body
  let rawToken ← subscript issued "access_token"
  let expiresIn ← issued.get "expires_in" .null
  return (rawToken, expiresIn)

/-- The errors of a body without credentials are caught. -/
def caughtCredentials (body : List UInt8) : Except Raised (Library.Json × Library.Json) :=
  match credentials decoder body with
  | .ok found => .ok found
  | .error .valueError => .ok (.null, .null)
  | .error .keyError => .ok (.null, .null)
  | .error .typeError => .ok (.null, .null)
  | .error exception => .error exception

def tokenOf : Library.Json → Option String
  | .text rawToken => usableBearer rawToken
  | _ => none

/-- The bearer goes into the cookie, and the body tells only its lifetime. -/
def signedInResponse (body : List UInt8) : Except Raised LoginResponse := do
  let (rawToken, expiresIn) ← caughtCredentials decoder body
  match tokenOf rawToken with
  | none => return { status := 502, content := unusableContent }
  | some token =>
      let maxAge := positiveInteger expiresIn
      return { status := 200, content := lifetimeContent maxAge, cacheControl := some "no-store",
               setCookie := some (cookie.set token maxAge) }

def loginCall (content : List UInt8) : ProxyCall where
  method := "POST"
  apiPath := "/api/admin/auth/login"
  content := content
  authenticate := false

/-- The body of the request is validated first, and it is absent when it is malformed. -/
def proxyLogin (platform : Platform) (catalog : ForwardedRequest → Option CatalogAnswer)
    (gate : SessionGate) (request : Request) (sanitisedBody : Option (List UInt8)) :
    SessionGate × Except Raised LoginResponse :=
  match sanitisedBody with
  | none => (gate, .ok { status := 400, content := malformedContent })
  | some content =>
      let proxied := proxyRequest platform catalog cookie gate request (loginCall content)
      if proxied.2.status ≠ 200 then (proxied.1, .ok { toProxyResponse := proxied.2 })
      else (proxied.1, signedInResponse decoder cookie proxied.2.content)

end Login

end OperationsConsole.Session
