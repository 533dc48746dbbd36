/-
This file embeds the session gate of `dashboard/session_auth.py`.
The cache, the tickets, and the invalid answers are three bounded stores with their own keys.
-/

import Mathlib.Logic.Equiv.Basic
import OperationsConsole.Events.Readings

namespace OperationsConsole.Session

open Library

/-- One uninterrupted step reads the monotonic clock and the wall clock at one instant. -/
structure Instant where
  monotonic : Seconds
  wall : Seconds
  deriving DecidableEq

def sessionCacheMaxSeconds : Seconds := 30

def wsTicketSeconds : Seconds := 30

def invalidAnswerSeconds : Seconds := 10

def maxCachedSessions : Nat := 1024

def maxOutstandingTickets : Nat := 4096

def maxInvalidAnswers : Nat := 4096

/-- A catalog-api admin session that the console has confirmed live. -/
structure AdminSession where
  adminId : String
  email : String
  expiresAt : Seconds
  deriving DecidableEq

def AdminSession.secondsLeft (session : AdminSession) (now : Seconds) : Seconds :=
  session.expiresAt - now

/-- A request carries no session for one of these reasons. -/
inductive Reason where
  | missing
  | invalid
  | unavailable
  deriving DecidableEq

/-- An ISO date and time is naive or has an offset from UTC. -/
structure IsoDateTime where
  reading : Seconds
  utcOffset : Option Seconds

/-- A naive date and time is read as UTC. -/
def IsoDateTime.instant (value : IsoDateTime) : Seconds := value.reading - value.utcOffset.getD 0

/-- The gate uses the token digest and the ISO date parser of the standard library. -/
structure Platform where
  tokenDigest : String → String
  fromIsoFormat : String → Option IsoDateTime

/-- A JSON body keeps the fields of an object in their order. -/
inductive Json where
  | null
  | bool (value : Bool)
  | number (value : ℚ)
  | string (value : String)
  | array (items : List Json)
  | object (fields : List (String × Json))

/-- The last field of a name wins, and any other body has no field. -/
def Json.field (name : String) : Json → Option Json
  | .object fields => fields.reverse.lookup name
  | _ => none

/-- catalog-api answers a check with a status and perhaps a JSON body, or it is unreachable. -/
inductive Reply where
  | unreachable
  | response (status : Nat) (body : Option Json)

def parseSession (platform : Platform) (body : Option Json) : Option AdminSession := do
  let body ← body
  let adminId ← body.field "admin_id"
  let email ← body.field "email"
  let expiresRaw ← body.field "expires_at"
  match adminId, email, expiresRaw with
  | .string adminId, .string email, .string expiresRaw =>
      let expiresAt ← platform.fromIsoFormat expiresRaw
      some ⟨adminId, email, expiresAt.instant⟩
  | _, _, _ => none

/-- This is the result of a check: a live session or the reason for its rejection. -/
abbrev Verdict := Except Reason AdminSession

def fetchSession (platform : Platform) (reply : Reply) (now : Instant) : Verdict :=
  match reply with
  | .unreachable => .error .unavailable
  | .response status body =>
      if status = 401 ∨ status = 403 then .error .invalid
      else if status ≠ 200 then .error .unavailable
      else match parseSession platform body with
        | none => .error .unavailable
        | some session =>
            if session.secondsLeft now.wall ≤ 0 then .error .invalid else .ok session

/-- This is the positive-only cache with a bounded lifetime and size. -/
structure SessionCache where
  ttlSeconds : Seconds
  maxEntries : Nat := maxCachedSessions
  entries : Dict String (Seconds × AdminSession) := Dict.empty
  deriving DecidableEq

namespace SessionCache

/-- A new cache caps its lifetime at 30 seconds. -/
def new (ttlSeconds : Seconds) (maxEntries : Nat) : SessionCache :=
  { ttlSeconds := min (max ttlSeconds 0) sessionCacheMaxSeconds, maxEntries := maxEntries }

def get (cache : SessionCache) (key : String) (now : Instant) :
    SessionCache × Option AdminSession :=
  match cache.entries.get? key with
  | none => (cache, none)
  | some (deadline, session) =>
      if deadline ≤ now.monotonic then ({ cache with entries := cache.entries.erase key }, none)
      else (cache, some session)

/-- The lifetime of a session in the cache is its remaining life, up to the cache's own. -/
def lifetime (cache : SessionCache) (session : AdminSession) (now : Instant) : Seconds :=
  min cache.ttlSeconds (session.secondsLeft now.wall)

def put (cache : SessionCache) (key : String) (session : AdminSession) (now : Instant) :
    SessionCache :=
  if cache.lifetime session now ≤ 0 then { cache with entries := cache.entries.erase key }
  else { cache with
    entries := (cache.entries.push key
      (now.monotonic + cache.lifetime session now, session)).trim cache.maxEntries }

def evict (cache : SessionCache) (key : String) : SessionCache :=
  { cache with entries := cache.entries.erase key }

end SessionCache

/-- A ticket proves a live session and the bearer behind it. -/
structure TicketGrant where
  session : AdminSession
  token : String
  deriving DecidableEq

/-- The tickets are single-use, and the store keeps them by digest. -/
structure TicketStore where
  ttlSeconds : Seconds := wsTicketSeconds
  maxOutstanding : Nat := maxOutstandingTickets
  tickets : Dict String (Seconds × TicketGrant) := Dict.empty
  deriving DecidableEq

namespace TicketStore

def prune (store : TicketStore) (now : Instant) : TicketStore :=
  { store with tickets := store.tickets.filter fun _ entry => now.monotonic < entry.1 }

def lifetime (store : TicketStore) (session : AdminSession) (now : Instant) : Seconds :=
  max (min store.ttlSeconds (session.secondsLeft now.wall)) 0

/-- The store mints the given fresh ticket and returns its lifetime. -/
def issue (platform : Platform) (store : TicketStore) (session : AdminSession) (token : String)
    (ticket : String) (now : Instant) : TicketStore × Seconds :=
  let store := store.prune now
  let lifetime := store.lifetime session now
  let tickets := store.tickets.set (platform.tokenDigest ticket)
    (now.monotonic + lifetime, ⟨session, token⟩)
  ({ store with tickets := tickets.trim store.maxOutstanding }, lifetime)

def redeem (platform : Platform) (store : TicketStore) (ticket : Option String) (now : Instant) :
    TicketStore × Option TicketGrant :=
  match ticket with
  | none => (store, none)
  | some ticket =>
      if ticket = "" then (store, none)
      else
        let key := platform.tokenDigest ticket
        match store.tickets.get? key with
        | none => (store, none)
        | some (deadline, grant) =>
            let store := { store with tickets := store.tickets.erase key }
            if deadline ≤ now.monotonic then (store, none) else (store, some grant)

/-- A purge drops every ticket of one bearer. -/
def purge (platform : Platform) (store : TicketStore) (key : String) : TicketStore :=
  { store with
    tickets := store.tickets.filter fun _ entry => platform.tokenDigest entry.2.token ≠ key }

end TicketStore

/-- The digests of the bearers that catalog-api recently called invalid. -/
structure InvalidAnswers where
  ttlSeconds : Seconds := invalidAnswerSeconds
  maxEntries : Nat := maxInvalidAnswers
  entries : Dict String Seconds := Dict.empty
  deriving DecidableEq

namespace InvalidAnswers

def holds (answers : InvalidAnswers) (key : String) (now : Instant) : InvalidAnswers × Bool :=
  match answers.entries.get? key with
  | none => (answers, false)
  | some deadline =>
      if deadline ≤ now.monotonic then ({ answers with entries := answers.entries.erase key }, false)
      else (answers, true)

def add (answers : InvalidAnswers) (key : String) (now : Instant) : InvalidAnswers :=
  { answers with
    entries := (answers.entries.push key (now.monotonic + answers.ttlSeconds)).trim
      answers.maxEntries }

end InvalidAnswers

/-- The gate validates bearers against catalog-api and issues tickets. -/
structure SessionGate where
  cache : SessionCache
  tickets : TicketStore := {}
  invalid : InvalidAnswers := {}
  deriving DecidableEq

/-- This removes the whitespace at both ends. -/
def strip (text : List Char) : List Char :=
  let space (char : Char) : Bool :=
    let code := char.toNat
    (9 ≤ code ∧ code ≤ 13) ∨ (28 ≤ code ∧ code ≤ 32) ∨ code ∈ [133, 160, 5760] ∨
      (8192 ≤ code ∧ code ≤ 8202) ∨ code ∈ [8232, 8233, 8239, 8287, 12288]
  ((text.dropWhile space).reverse.dropWhile space).reverse

def isTokenChar (char : Char) : Bool := char.isAlphanum ∨ char ∈ "-._~+/".toList

/-- A well-formed bearer is a bounded run of token characters and then only equals signs. -/
def bearerToken (authorization : Option String) : Option String :=
  let text := (authorization.getD "").toList
  let scheme := text.takeWhile fun char => char ≠ ' '
  let credentials := strip (text.drop (scheme.length + 1))
  let body := credentials.takeWhile isTokenChar
  if (String.ofList scheme).toLower = "bearer" ∧ 1 ≤ body.length ∧ body.length ≤ 4096 ∧
      (credentials.drop body.length).all (fun char => char = '=') then
    some (String.ofList credentials)
  else none

namespace SessionGate

/-- The part of a validation before the check answers from the stores or asks catalog-api. -/
def beforeCheck (platform : Platform) (gate : SessionGate) (token : String) (fresh : Bool)
    (now : Instant) : SessionGate × Option Verdict :=
  let key := platform.tokenDigest token
  let cached := if fresh then (gate.cache, none) else gate.cache.get key now
  let gate := { gate with cache := cached.1 }
  match cached.2 with
  | some session => (gate, some (.ok session))
  | none =>
      let held := gate.invalid.holds key now
      let gate := { gate with invalid := held.1 }
      (gate, if held.2 then some (.error .invalid) else none)

/-- The part of a validation after the check stores its verdict. -/
def afterCheck (platform : Platform) (gate : SessionGate) (token : String) (verdict : Verdict)
    (now : Instant) : SessionGate :=
  let key := platform.tokenDigest token
  match verdict with
  | .ok session => { gate with cache := gate.cache.put key session now }
  | .error .invalid =>
      { gate with cache := gate.cache.evict key, invalid := gate.invalid.add key now }
  | .error _ => gate

def forget (platform : Platform) (gate : SessionGate) (authorization : Option String) :
    SessionGate :=
  match bearerToken authorization with
  | none => gate
  | some token =>
      let key := platform.tokenDigest token
      { gate with cache := gate.cache.evict key, tickets := gate.tickets.purge platform key }

end SessionGate

/-- This platform knows the digests of one bearer and one ticket, and one expiry. -/
def samplePlatform : Platform where
  tokenDigest := (Equiv.swap "bearer"
    "2454ad61c2acc04f0a20fabf7f2bc96f28d19c434052fdefdbb51b46fe534f89").trans
      (Equiv.swap "ticket" "14069429150abcbf244c4c2fb2c4c46a49c93ca9457263ecd9ebb176de3a58bb")
  fromIsoFormat raw :=
    if raw = "2026-01-01T00:00:00+00:00" then some ⟨1767225600, some 0⟩ else none

theorem samplePlatform_injective : Function.Injective samplePlatform.tokenDigest :=
  Equiv.injective _

/-- catalog-api answers a check with a session that ends at the sample expiry. -/
def liveReply : Reply :=
  .response 200 (some (.object [("admin_id", .string "1"), ("email", .string "admin@example.org"),
    ("expires_at", .string "2026-01-01T00:00:00+00:00")]))

end OperationsConsole.Session
