/-
This file embeds how a request presents its credential, and who may use the session cookie.
A request is carried by the cookie exactly when it has no own header and the cookie has a bearer.
-/

import OperationsConsole.Redaction.UrlSplit
import OperationsConsole.Session.Gate

namespace OperationsConsole.Session

open Library
open Redaction (Unicode ValueError urlsplit)

/-- The server names headers in lower case, and the framework parses the cookies. -/
structure Request where
  method : String
  headers : List (String × String)
  cookies : Dict String String
  clientHost : Option String := none
  scheme : String := "http"

/-- The first header of a name counts. -/
def Request.header (request : Request) (name : String) : Option String :=
  request.headers.lookup name.toLower

/-- An empty text counts as an absent one. -/
def nonempty (text : Option String) : Option String := text.filter fun text => text ≠ ""

def sessionCookieName : String := "groovemap_console_session"

def secureSessionCookieName : String := "__Host-" ++ sessionCookieName

def consoleRequestHeader : String := "X-GrooveMap-Console"

def unsafeMethods : List String := ["POST", "PUT", "PATCH", "DELETE"]

structure SessionCookie where
  secure : Bool := true

namespace SessionCookie

variable (cookie : SessionCookie) (request : Request)

def name : String := if cookie.secure then secureSessionCookieName else sessionCookieName

def read : Option String := nonempty (request.cookies.get? cookie.name)

def carriedBy : Bool :=
  (nonempty (request.header "authorization")).isNone && (cookie.read request).isSome

end SessionCookie

/-- A credential is the own header of a request or the bearer of its cookie. -/
inductive Credential where
  | own (header : String)
  | cookie (token : String)
  deriving DecidableEq

def Credential.authorization : Credential → String
  | own header => header
  | cookie token => "Bearer " ++ token

/-- The own header of a request wins over its cookie. -/
def requestCredential (cookie : SessionCookie) (request : Request) : Option Credential :=
  match nonempty (request.header "authorization") with
  | some header => some (.own header)
  | none => (nonempty (cookie.read request)).map Credential.cookie

def requestAuthorization (cookie : SessionCookie) (request : Request) : Option String :=
  (requestCredential cookie request).map Credential.authorization

/-- A header of the browser decides, or else its origin must name the host. -/
def sameOrigin (unicode : Unicode) (request : Request) : Except ValueError Bool :=
  match request.header "sec-fetch-site" with
  | some site => .ok (site = "same-origin")
  | none =>
      match request.header "origin" with
      | none => .ok true
      | some origin =>
          match request.header "host" with
          | none => .ok false
          | some host => do
              let parts ← urlsplit unicode origin.toList
              return unicode.lower parts.netloc = unicode.lower host.toList

inductive Refusal where
  | forbidden (detail : String)
  | valueError (error : ValueError)

def requireConsoleRequest (unicode : Unicode) (request : Request) : Except Refusal Unit :=
  if request.method ∉ unsafeMethods ∨ nonempty (request.header "authorization") ≠ none then .ok ()
  else
    match sameOrigin unicode request with
    | .error error => .error (.valueError error)
    | .ok same =>
        if same = false ∨ request.header consoleRequestHeader ≠ some "1" then
          .error (.forbidden
            "Cross-site request refused: the console's own pages send this request")
        else .ok ()

/-- A response may tell the browser to drop the session cookie. -/
structure ProxyResponse where
  status : Nat
  content : List UInt8
  mediaType : String := "application/json"
  retryAfter : Option String := none
  clearsCookie : Bool := false

/-- One call of a route: what it forwards to catalog-api. -/
structure ProxyCall where
  method : String
  apiPath : String
  params : Option (Dict String String) := none
  content : List UInt8 := []
  authenticate : Bool := true

structure ForwardedRequest where
  isGet : Bool
  apiPath : String
  params : Option (Dict String String)
  content : List UInt8
  headers : Dict String String

structure CatalogAnswer where
  status : Nat
  content : List UInt8
  retryAfter : Option String

def authHeaders (cookie : SessionCookie) (request : Request) (authenticate : Bool) :
    Dict String String :=
  let auth := if authenticate then requestAuthorization cookie request else none
  let authorized := match nonempty auth with
    | some auth => Dict.empty.set "Authorization" auth
    | none => Dict.empty
  let located := match nonempty request.clientHost with
    | some host => authorized.set "X-Forwarded-For" host
    | none => authorized
  located.set "X-Forwarded-Proto" request.scheme

def forwardedRequest (cookie : SessionCookie) (request : Request) (call : ProxyCall) :
    ForwardedRequest where
  isGet := call.method = "GET"
  apiPath := call.apiPath
  params := call.params
  content := call.content
  headers :=
    let headers := authHeaders cookie request call.authenticate
    if call.content = [] then headers else headers.set "Content-Type" "application/json"

/-- This is the body of the answer when catalog-api is unreachable. -/
def unavailableContent : List UInt8 :=
  "\x7b\x22detail\x22:\x22API service unavailable\x22\x7d".toUTF8.data.toList

def okResponse (answer : CatalogAnswer) : ProxyResponse where
  status := answer.status
  content := answer.content
  mediaType := "application/json"
  retryAfter := nonempty answer.retryAfter

section Proxy

variable (platform : Platform) (catalog : ForwardedRequest → Option CatalogAnswer)
variable (cookie : SessionCookie) (gate : SessionGate) (request : Request)

/-- There is no answer when catalog-api is unreachable. -/
def proxyRequest (call : ProxyCall) : SessionGate × ProxyResponse :=
  match catalog (forwardedRequest cookie request call) with
  | none => (gate, { status := 502, content := unavailableContent })
  | some answer =>
      let result := okResponse answer
      if call.authenticate ∧ answer.status = 401 ∧ cookie.carriedBy request then
        (gate.forget platform (requestAuthorization cookie request),
          { result with clearsCookie := true })
      else (gate, result)

def logoutCall : ProxyCall := { method := "POST", apiPath := "/api/admin/auth/logout" }

/-- The session of the credential is forgotten whatever catalog-api answers. -/
def proxyLogout : SessionGate × ProxyResponse :=
  let authorization := requestAuthorization cookie request
  let fromCookie := cookie.carriedBy request
  let proxied := proxyRequest platform catalog cookie gate request logoutCall
  let forgotten := proxied.1.forget platform authorization
  if fromCookie ∧ proxied.2.status ≠ 401 then
    (forgotten, { proxied.2 with clearsCookie := true })
  else (forgotten, proxied.2)

end Proxy

def Reason.statusCode : Reason → Nat
  | .missing => 401
  | .invalid => 401
  | .unavailable => 503

def Reason.detail : Reason → String
  | .missing => "Sign in to use the operations console"
  | .invalid => "Your admin session has expired or was revoked; sign in again"
  | .unavailable =>
      "catalog-api could not verify your admin session; sign in again once it is reachable"

/-- A rejection names its reason, and an invalid session clears the cookie that carried it. -/
structure RejectedResponse where
  status : Nat
  detail : String
  reason : Reason
  wwwAuthenticate : String := "Bearer"
  clearsCookie : Bool

def sessionRejectedHandler (cookie : SessionCookie) (request : Request) (reason : Reason) :
    RejectedResponse where
  status := reason.statusCode
  detail := reason.detail
  reason := reason
  clearsCookie := reason = .invalid && cookie.carriedBy request

theorem nonempty_eq_some_iff (text : Option String) (value : String) :
    nonempty text = some value ↔ text = some value ∧ value ≠ "" := by
  unfold nonempty
  rw [Option.filter_eq_some_iff, decide_eq_true_eq]

/-- A second test for the empty text changes nothing. -/
theorem nonempty_nonempty (text : Option String) : nonempty (nonempty text) = nonempty text := by
  unfold nonempty
  rw [Option.filter_filter]
  simp

section Credentials

variable (cookie : SessionCookie) (request : Request)

theorem requestCredential_own_iff (header : String) :
    requestCredential cookie request = some (.own header) ↔
      nonempty (request.header "authorization") = some header := by
  unfold requestCredential
  cases nonempty (request.header "authorization") with
  | none => simp
  | some own => simp

/-- The bearer of the cookie is the credential of a request without an own header. -/
theorem requestCredential_cookie_iff (token : String) :
    requestCredential cookie request = some (.cookie token) ↔
      nonempty (request.header "authorization") = none ∧ cookie.read request = some token := by
  unfold requestCredential SessionCookie.read
  rw [nonempty_nonempty]
  cases nonempty (request.header "authorization") with
  | none => simp
  | some own => simp

/-- A request is carried by the cookie exactly when the bearer of the cookie is its credential. -/
theorem carriedBy_iff : cookie.carriedBy request = true ↔
    ∃ token, requestCredential cookie request = some (.cookie token) := by
  simp only [requestCredential_cookie_iff, exists_and_left]
  unfold SessionCookie.carriedBy
  rw [Bool.and_eq_true, Option.isNone_iff_eq_none, Option.isSome_iff_exists]

/-- The credential is the bearer of the cookie exactly when the cookies make a difference. -/
theorem requestCredential_cookie_iff_differs :
    (∃ token, requestCredential cookie request = some (.cookie token)) ↔
      requestAuthorization cookie { request with cookies := Dict.empty } ≠
        requestAuthorization cookie request := by
  have without : requestCredential cookie { request with cookies := Dict.empty } =
      (nonempty (request.header "authorization")).map Credential.own := by
    unfold requestCredential
    show (match nonempty (request.header "authorization") with
      | some header => some (Credential.own header)
      | none => _) = _
    cases nonempty (request.header "authorization") <;> rfl
  unfold requestAuthorization
  rw [without]
  constructor
  · rintro ⟨token, carried⟩
    have free := ((requestCredential_cookie_iff cookie request token).mp carried).1
    rw [carried, free]
    exact (Option.some_ne_none _).symm
  · intro differs
    cases credential : requestCredential cookie request with
    | none =>
        exfalso
        apply differs
        cases own : nonempty (request.header "authorization") with
        | none => rw [credential]; rfl
        | some header =>
            rw [(requestCredential_own_iff cookie request header).mpr own] at credential
            cases credential
    | some kind =>
        cases kind with
        | cookie token => exact ⟨token, rfl⟩
        | own header =>
            exfalso
            apply differs
            rw [credential, (requestCredential_own_iff cookie request header).mp credential]
            rfl

end Credentials

/-- The own pages of the console send a header of their own from the origin that the host names. -/
structure FromConsole (unicode : Unicode) (request : Request) : Prop where
  marked : request.header consoleRequestHeader = some "1"
  origin : request.header "sec-fetch-site" = some "same-origin" ∨
    request.header "sec-fetch-site" = none ∧
      (request.header "origin" = none ∨ ∃ origin host parts,
        request.header "origin" = some origin ∧ request.header "host" = some host ∧
          urlsplit unicode origin.toList = .ok parts ∧
            unicode.lower parts.netloc = unicode.lower host.toList)

theorem sameOrigin_eq_true (unicode : Unicode) (request : Request)
    (same : sameOrigin unicode request = .ok true) :
    request.header "sec-fetch-site" = some "same-origin" ∨
      request.header "sec-fetch-site" = none ∧
        (request.header "origin" = none ∨ ∃ origin host parts,
          request.header "origin" = some origin ∧ request.header "host" = some host ∧
            urlsplit unicode origin.toList = .ok parts ∧
              unicode.lower parts.netloc = unicode.lower host.toList) := by
  unfold sameOrigin at same
  cases site : request.header "sec-fetch-site" with
  | some site =>
      rw [site] at same
      simp only [Except.ok.injEq, decide_eq_true_eq] at same
      rw [same]
      exact .inl rfl
  | none =>
      rw [site] at same
      refine .inr ⟨rfl, ?_⟩
      cases sent : request.header "origin" with
      | none => exact .inl rfl
      | some origin =>
          rw [sent] at same
          cases named : request.header "host" with
          | none =>
              rw [named] at same
              cases same
          | some host =>
              rw [named] at same
              dsimp only at same
              cases split : urlsplit unicode origin.toList with
              | error error =>
                  rw [split] at same
                  cases same
              | ok parts =>
                  rw [split] at same
                  exact .inr ⟨origin, host, parts, rfl, rfl, split,
                    of_decide_eq_true (Except.ok.inj same)⟩

/-- The guard lets an unsafe request without an own header pass only from the console. -/
theorem fromConsole_of_passed (unicode : Unicode) (request : Request)
    (changes : request.method ∈ unsafeMethods)
    (free : nonempty (request.header "authorization") = none)
    (passed : requireConsoleRequest unicode request = .ok ()) : FromConsole unicode request := by
  unfold requireConsoleRequest at passed
  rw [if_neg (by simp [changes, free])] at passed
  cases same : sameOrigin unicode request with
  | error error =>
      rw [same] at passed
      cases passed
  | ok own =>
      rw [same] at passed
      dsimp only at passed
      split at passed
      · cases passed
      · rename_i accepted
        obtain ⟨origin, marked⟩ := not_or.mp accepted
        rw [Bool.not_eq_false] at origin
        rw [origin] at same
        exact ⟨not_not.mp marked, sameOrigin_eq_true unicode request same⟩

/-- A request with an own header is answered without its cookie, whatever the cookie is. -/
structure OwnHeaderOnly (cookie : SessionCookie) (request : Request) (header : String) : Prop where
  uncarried : cookie.carriedBy request = false
  yields : requestAuthorization cookie request = some header
  forwarded : ∀ call, call.authenticate = true →
    (forwardedRequest cookie request call).headers.get? "Authorization" = some header
  untouched : ∀ platform catalog gate call,
    (proxyRequest platform catalog cookie gate request call).1 = gate ∧
      (proxyRequest platform catalog cookie gate request call).2.clearsCookie = false
  logout : ∀ platform catalog gate,
    (proxyLogout platform catalog cookie gate request).1 = gate.forget platform (some header) ∧
      (proxyLogout platform catalog cookie gate request).2.clearsCookie = false
  rejected : ∀ reason, (sessionRejectedHandler cookie request reason).clearsCookie = false
  blind : ∀ platform catalog gate call cookies,
    proxyRequest platform catalog cookie gate { request with cookies := cookies } call =
      proxyRequest platform catalog cookie gate request call

section Own

variable (cookie : SessionCookie) (request : Request) (header : String)

theorem carriedBy_of_own (own : requestCredential cookie request = some (.own header)) :
    cookie.carriedBy request = false := by
  rw [← Bool.not_eq_true, carriedBy_iff, own]
  rintro ⟨token, same⟩
  cases same

theorem requestAuthorization_of_own (own : requestCredential cookie request = some (.own header)) :
    requestAuthorization cookie request = some header := by
  rw [requestAuthorization, own]
  rfl

/-- The cookies of a request cannot replace its own header. -/
theorem own_of_cookies (cookies : Dict String String)
    (own : requestCredential cookie request = some (.own header)) :
    requestCredential cookie { request with cookies := cookies } = some (.own header) := by
  rw [requestCredential_own_iff] at own ⊢
  exact own

theorem get?_authHeaders (own : requestCredential cookie request = some (.own header)) :
    (authHeaders cookie request true).get? "Authorization" = some header := by
  have present : nonempty (some header) = some header :=
    (nonempty_eq_some_iff _ _).mpr ⟨rfl, ((nonempty_eq_some_iff _ _).mp
      ((requestCredential_own_iff cookie request header).mp own)).2⟩
  unfold authHeaders
  rw [if_pos rfl, requestAuthorization_of_own cookie request header own]
  dsimp only
  rw [present, Dict.get?_set, if_neg (by decide)]
  cases nonempty request.clientHost with
  | none => rw [Dict.get?_set, if_pos rfl]
  | some host => rw [Dict.get?_set, if_neg (by decide), Dict.get?_set, if_pos rfl]

theorem proxyRequest_of_uncarried (platform : Platform)
    (catalog : ForwardedRequest → Option CatalogAnswer) (gate : SessionGate) (call : ProxyCall)
    (uncarried : cookie.carriedBy request = false) :
    proxyRequest platform catalog cookie gate request call =
      (gate, ((catalog (forwardedRequest cookie request call)).map okResponse).getD
        { status := 502, content := unavailableContent }) := by
  unfold proxyRequest
  cases catalog (forwardedRequest cookie request call) with
  | none => rfl
  | some answer => exact if_neg fun all => absurd all.2.2 (uncarried ▸ Bool.false_ne_true)

theorem forwardedRequest_of_own (call : ProxyCall) (cookies : Dict String String)
    (own : requestCredential cookie request = some (.own header)) :
    forwardedRequest cookie { request with cookies := cookies } call =
      forwardedRequest cookie request call := by
  unfold forwardedRequest authHeaders
  rw [requestAuthorization_of_own cookie request header own,
    requestAuthorization_of_own cookie _ header (own_of_cookies cookie request header cookies own)]

/-- The own header is what a call with authentication forwards. -/
theorem get?_forwardedRequest (call : ProxyCall) (authenticates : call.authenticate = true)
    (own : requestCredential cookie request = some (.own header)) :
    (forwardedRequest cookie request call).headers.get? "Authorization" = some header := by
  have authorized := get?_authHeaders cookie request header own
  unfold forwardedRequest
  dsimp only
  rw [authenticates]
  split
  · exact authorized
  · rw [Dict.get?_set, if_neg (by decide)]
    exact authorized

/-- A call touches neither the gate nor the cookie of a request that the cookie does not carry. -/
theorem proxyRequest_untouched (platform : Platform)
    (catalog : ForwardedRequest → Option CatalogAnswer) (gate : SessionGate) (call : ProxyCall)
    (uncarried : cookie.carriedBy request = false) :
    (proxyRequest platform catalog cookie gate request call).1 = gate ∧
      (proxyRequest platform catalog cookie gate request call).2.clearsCookie = false := by
  rw [proxyRequest_of_uncarried cookie request platform catalog gate call uncarried]
  refine ⟨rfl, ?_⟩
  cases catalog (forwardedRequest cookie request call) with
  | none => rfl
  | some answer => rfl

/-- A logout with an own header forgets the session of that header and leaves the cookie. -/
theorem proxyLogout_of_own (platform : Platform)
    (catalog : ForwardedRequest → Option CatalogAnswer) (gate : SessionGate)
    (own : requestCredential cookie request = some (.own header)) :
    (proxyLogout platform catalog cookie gate request).1 = gate.forget platform (some header) ∧
      (proxyLogout platform catalog cookie gate request).2.clearsCookie = false := by
  have uncarried := carriedBy_of_own cookie request header own
  obtain ⟨kept, uncleared⟩ :=
    proxyRequest_untouched cookie request platform catalog gate logoutCall uncarried
  have result : proxyLogout platform catalog cookie gate request =
      ((proxyRequest platform catalog cookie gate request logoutCall).1.forget platform
        (some header), (proxyRequest platform catalog cookie gate request logoutCall).2) := by
    unfold proxyLogout
    rw [requestAuthorization_of_own cookie request header own]
    exact if_neg fun both => absurd both.1 (uncarried ▸ Bool.false_ne_true)
  rw [result, kept]
  exact ⟨rfl, uncleared⟩

/-- A request with an own header gets the same answer whatever its cookies are. -/
theorem proxyRequest_of_cookies (platform : Platform)
    (catalog : ForwardedRequest → Option CatalogAnswer) (gate : SessionGate) (call : ProxyCall)
    (cookies : Dict String String) (own : requestCredential cookie request = some (.own header)) :
    proxyRequest platform catalog cookie gate { request with cookies := cookies } call =
      proxyRequest platform catalog cookie gate request call := by
  have uncarried := carriedBy_of_own cookie request header own
  have others := carriedBy_of_own cookie _ header
    (own_of_cookies cookie request header cookies own)
  rw [proxyRequest_of_uncarried cookie _ platform catalog gate call others,
    proxyRequest_of_uncarried cookie request platform catalog gate call uncarried,
    forwardedRequest_of_own cookie request header call cookies own]

/-- A request whose credential is its own header never touches the cookie. -/
theorem ownHeaderOnly (own : requestCredential cookie request = some (.own header)) :
    OwnHeaderOnly cookie request header := by
  have uncarried := carriedBy_of_own cookie request header own
  refine ⟨uncarried, requestAuthorization_of_own cookie request header own, ?_, ?_, ?_, ?_, ?_⟩
  · intro call authenticates
    exact get?_forwardedRequest cookie request header call authenticates own
  · intro platform catalog gate call
    exact proxyRequest_untouched cookie request platform catalog gate call uncarried
  · intro platform catalog gate
    exact proxyLogout_of_own cookie request header platform catalog gate own
  · intro reason
    unfold sessionRejectedHandler
    rw [uncarried, Bool.and_false]
  · intro platform catalog gate call cookies
    exact proxyRequest_of_cookies cookie request header platform catalog gate call cookies own

end Own

/-- The cookie alone never authorizes a change, and it is touched only where it is the
credential. -/
structure CookieNeverAlone (unicode : Unicode) (cookie : SessionCookie) (request : Request) :
    Prop where
  guarded : request.method ∈ unsafeMethods → requireConsoleRequest unicode request = .ok () →
    ∀ token, requestCredential cookie request = some (.cookie token) →
      FromConsole unicode request
  own : ∀ header, requestCredential cookie request = some (.own header) →
    OwnHeaderOnly cookie request header
  carried : cookie.carriedBy request = true ↔
    ∃ token, requestCredential cookie request = some (.cookie token)
  token : ∀ token, requestCredential cookie request = some (.cookie token) →
    cookie.read request = some token ∧
      requestAuthorization cookie request = some ("Bearer " ++ token)
  differs : (∃ token, requestCredential cookie request = some (.cookie token)) ↔
    requestAuthorization cookie { request with cookies := Dict.empty } ≠
      requestAuthorization cookie request

/-- This holds of every request, with any headers and any cookies. -/
theorem cookieNeverAlone (unicode : Unicode) (cookie : SessionCookie) (request : Request) :
    CookieNeverAlone unicode cookie request := by
  refine ⟨?_, ?_, carriedBy_iff cookie request, ?_,
    requestCredential_cookie_iff_differs cookie request⟩
  · intro changes passed token carried
    have free := ((requestCredential_cookie_iff cookie request token).mp carried).1
    exact fromConsole_of_passed unicode request changes free passed
  · intro header own
    exact ownHeaderOnly cookie request header own
  · intro token carried
    refine ⟨((requestCredential_cookie_iff cookie request token).mp carried).2, ?_⟩
    rw [requestAuthorization, carried]
    rfl

end OperationsConsole.Session
