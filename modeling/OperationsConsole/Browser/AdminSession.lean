/-
This file embeds the session handling of the console shell in `admin.js`.
A step runs from one await point to the next, and answers may arrive in any order.
-/

import OperationsConsole.Library.Loop

namespace OperationsConsole.Browser

open Library

/-- These reasons end the session for good, and a later answer about it is ignored. -/
def sessionDiscardReasons : List String :=
  ["signed-out", "signed-out-unconfirmed", "missing", "invalid"]

/-- The console reports the session with its remaining milliseconds when its expiry is a date. -/
structure SessionBody where
  email : Option String := none
  expiresIn : Option Int := none
  deriving DecidableEq

/-- The console is unreachable, it answers with a session or an unreadable body, or it refuses. A
reason that is missing or empty is absent. -/
inductive SessionReply where
  | unreachable
  | live (session : SessionBody)
  | unreadable
  | refused (status : Nat) (reason : Option String)

/-- The session is live, or there is a reason why it is not. -/
inductive CheckResult where
  | ok (session : SessionBody)
  | failed (reason : String)

def checkSession : SessionReply → CheckResult
  | .live session => .ok session
  | .unreachable => .failed "console-unreachable"
  | .unreadable => .failed "console-unreachable"
  | .refused status reason =>
      .failed (reason.getD (if status = 503 then "unavailable" else "invalid"))

/-- A request remembers the session generation in which it was sent. Its step orders the run. -/
structure Asked where
  generation : Nat
  sent : Nat
  deriving DecidableEq

structure ResumeRequest where
  asked : Asked
  initial : Bool
  deriving DecidableEq

/-- A verification announces the session again when the live Overview requested it. -/
structure Verification where
  asked : Asked
  requested : Bool
  deriving DecidableEq

/-- The shell tells the live Overview when a session begins and when it ends. -/
inductive ConsoleEvent where
  | authenticated (session : Nat)
  | signedOut
  deriving DecidableEq

/-- The state holds the session of the shell, the login form, and the requests in flight. The last
three fields record the run: its length, the step of the login whose session is the current one,
and the step of the sign-out whose reason the login form shows. -/
structure Console where
  generation : Nat := 1
  signedIn : Bool := false
  signingOut : Bool := false
  signOutPending : Bool := false
  loading : Bool := true
  reason : Option String := none
  email : Option String := none
  sessionWatch : Bool := false
  sessionExpiryTimer : Bool := false
  logins : Nat := 0
  resumes : List ResumeRequest := []
  verifications : List Verification := []
  logouts : List Nat := []
  fetches : List Asked := []
  announced : List ConsoleEvent := []
  steps : Nat := 0
  session : Option Nat := none
  signedOut : Option Nat := none
  deriving DecidableEq

/-- One step of the page, of its timers, or of an answer. -/
inductive ConsoleInput where
  | loaded
  | login
  | loginAnswer (succeeded : Bool)
  | resumeAnswer (index : Nat) (reply : SessionReply)
  | watchTick
  | expiryTick
  | checkRequested
  | verifyAnswer (index : Nat) (reply : SessionReply)
  | logout
  | logoutAnswer (index : Nat) (status : Option Nat)
  | authFetch
  | authFetchAnswer (index : Nat) (status : Option Nat)

namespace Console

section Step

variable (console : Console)

def asked : Asked := ⟨console.generation, console.steps⟩

def announce (event : ConsoleEvent) : Console :=
  { console with announced := event :: console.announced }

/-- The login form replaces the console and shows a reason, or none. -/
def showLogin (reason : Option String) : Console :=
  let shown := { console with
    signedIn := false
    sessionWatch := false
    sessionExpiryTimer := false
    reason := reason
    session := none
    signedOut := none }
  if console.signedIn then shown.announce .signedOut else shown

def startSessionWatch (session : SessionBody) : Console :=
  { console with
    sessionWatch := true
    sessionExpiryTimer := session.expiresIn.any fun left => max left 0 + 1000 ≤ 2147483647 }

def showPanel (session : SessionBody) : Console :=
  let shown := { console with
    signedIn := true
    email := session.email <|> console.email }
  (shown.startSessionWatch session).announce (.authenticated console.generation)

/-- A session that is over for good gets a new generation. -/
def endSession (reason : String) : Console :=
  let ended :=
    if reason ∈ sessionDiscardReasons then { console with generation := console.generation + 1 }
    else console
  ended.showLogin (some reason)

def resumeSession (initial : Bool) : Console :=
  { console with resumes := console.resumes ++ [⟨console.asked, initial⟩] }

/-- A resume counts only in the generation that sent it. -/
def resumeAnswer (index : Nat) (reply : SessionReply) : Console :=
  match console.resumes[index]? with
  | none => console
  | some request =>
      let answered := { console with resumes := console.resumes.eraseIdx index }
      if request.asked.generation = console.generation then
        match checkSession reply with
        | .ok session => answered.showPanel session
        | .failed reason =>
            if request.initial && reason = "missing" then answered.showLogin none
            else answered.endSession reason
      else answered

/-- An answer may end only the session it was asked about. -/
def ownsSession (generation : Nat) : Bool :=
  generation = console.generation ∧ console.signedIn ∧ ¬ console.signingOut

def verifySession (requested : Bool) : Console :=
  { console with verifications := console.verifications ++ [⟨console.asked, requested⟩] }

def verifyAnswer (index : Nat) (reply : SessionReply) : Console :=
  match console.verifications[index]? with
  | none => console
  | some request =>
      let answered := { console with verifications := console.verifications.eraseIdx index }
      match checkSession reply with
      | .ok _ =>
          if request.requested && console.signedIn then
            answered.announce (.authenticated console.generation)
          else answered
      | .failed reason =>
          if console.ownsSession request.asked.generation then
            answered.endSession (if reason = "missing" then "invalid" else reason)
          else answered

def onSessionCheckRequested : Console :=
  if console.signedIn then console.verifySession true else console

def watchTick : Console := if console.sessionWatch then console.verifySession false else console

def expiryTick : Console :=
  if console.sessionExpiryTimer then
    { console with sessionExpiryTimer := false }.verifySession false
  else console

def login : Console := { console with logins := console.logins + 1 }

/-- A successful login starts a session and asks the console about it. -/
def loginAnswer (succeeded : Bool) : Console :=
  if console.logins = 0 then console
  else
    let answered := { console with logins := console.logins - 1 }
    if succeeded then
      { answered with
        generation := console.generation + 1
        signOutPending := false
        session := some console.steps }.resumeSession false
    else answered

def logout : Console :=
  { console with
    signingOut := true
    logouts := console.logouts ++ [console.steps] }

/-- Only a 2xx or a 401 confirms a sign-out. -/
def signOutReason (status : Option Nat) : String :=
  if status.any fun code => (200 ≤ code ∧ code < 300) ∨ code = 401 then "signed-out"
  else "signed-out-unconfirmed"

/-- The answer of a sign-out ends the session, whichever session it is. -/
def logoutAnswer (index : Nat) (status : Option Nat) : Console :=
  match console.logouts[index]? with
  | none => console
  | some _ =>
      let answered := { console with
        logouts := console.logouts.eraseIdx index
        signingOut := false
        signOutPending := status.isNone }
      { answered.endSession (signOutReason status) with signedOut := some console.steps }

def authFetch : Console := { console with fetches := console.fetches ++ [console.asked] }

def authFetchAnswer (index : Nat) (status : Option Nat) : Console :=
  match console.fetches[index]? with
  | none => console
  | some request =>
      let answered := { console with fetches := console.fetches.eraseIdx index }
      if status = some 401 then
        if console.ownsSession request.generation then answered.endSession "invalid" else answered
      else answered

/-- A sign-out that never reached the console is finished before anything is resumed. -/
def start : Console :=
  if console.loading then
    let loaded := { console with loading := false }
    if console.signOutPending then loaded.logout else loaded.resumeSession true
  else console

def act : ConsoleInput → Console
  | .loaded => console.start
  | .login => console.login
  | .loginAnswer succeeded => console.loginAnswer succeeded
  | .resumeAnswer index reply => console.resumeAnswer index reply
  | .watchTick => console.watchTick
  | .expiryTick => console.expiryTick
  | .checkRequested => console.onSessionCheckRequested
  | .verifyAnswer index reply => console.verifyAnswer index reply
  | .logout => console.logout
  | .logoutAnswer index status => console.logoutAnswer index status
  | .authFetch => console.authFetch
  | .authFetchAnswer index status => console.authFetchAnswer index status

def step (input : ConsoleInput) : Console :=
  { console.act input with steps := console.steps + 1 }

/-- The requests that compare their generation with the current one. -/
def guarded : List Asked :=
  console.resumes.map ResumeRequest.asked ++
    (console.verifications.map Verification.asked ++ console.fetches)

/-- The step that sent the request which an input answers, for the requests that may end a
session. -/
def answered : ConsoleInput → Option Nat
  | .resumeAnswer index _ => console.resumes[index]?.map fun request => request.asked.sent
  | .verifyAnswer index _ => console.verifications[index]?.map fun request => request.asked.sent
  | .logoutAnswer index _ => console.logouts[index]?
  | .authFetchAnswer index _ => console.fetches[index]?.map Asked.sent
  | _ => none

end Step

end Console

/-- The shell after the steps of a history, the newest first. A sign-out may be left over from the
page before. -/
def consoleAfter (signOutPending : Bool) (history : List ConsoleInput) : Console :=
  after Console.step { signOutPending := signOutPending } history

end OperationsConsole.Browser
