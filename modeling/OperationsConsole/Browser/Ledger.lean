/-
This file embeds the reads of the identity ledger in `admin.js`, with their retries.
An answer is one step, which ends when its body has been read.
-/

import Mathlib.Data.Rat.Defs
import Mathlib.Algebra.Order.Ring.Unbundled.Rat
import Mathlib.Logic.Function.Basic
import OperationsConsole.Browser.AdminSession

namespace OperationsConsole.Browser

open Library

inductive LedgerKind where
  | density
  | works
  | work
  deriving DecidableEq

def ledgerNotRefreshed : String := "identity ledger not yet refreshed"

def ledgerRetryDefaultMs : ℚ := 60000

def ledgerRetryMinMs : ℚ := 1000

def ledgerRetryMaxMs : ℚ := 600000

/-- The header counts seconds, or it names a date, which is some milliseconds away. -/
inductive RetryAfter where
  | absent
  | seconds (count : ℚ)
  | date (left : ℤ)
  | unreadable

def ledgerRetryDelay (retryAfter : RetryAfter) : ℚ :=
  let delay := match retryAfter with
    | .seconds count => count * 1000
    | .date left => left
    | .absent | .unreadable => ledgerRetryDefaultMs
  min (max delay ledgerRetryMinMs) ledgerRetryMaxMs

/-- A read gets no body that can be read, or data, which its drawing may reject with a message, or a
status that is no success. A detail that is no text is absent. -/
inductive LedgerReply (β : Type) where
  | failed (message : String)
  | data (body : β) (rejected : Option String)
  | refused (status : Nat) (detail : Option String) (retryAfter : RetryAfter)

/-- A read remembers its own generation and the session that sent it. Its step orders the run. -/
structure LedgerRead where
  kind : LedgerKind
  generation : Nat
  session : Nat
  sent : Nat
  deriving DecidableEq

/-- What is drawn is the data of a read, or an empty place for a ledger that is being built. -/
structure Drawn (β : Type) where
  sent : Nat
  content : Option β

/-- One kind of read has a place on the page. Its drawings are listed with the newest first. -/
structure LedgerView (β : Type) where
  generation : Nat := 0
  loading : Bool := false
  error : Option String := none
  building : Bool := false
  drawings : List (Drawn β) := []

/-- A timer remembers the step of the read that set it. -/
structure RetryTimer where
  id : Nat
  kind : LedgerKind
  setBy : Nat
  delay : ℚ

/-- The page holds the session, the views, the timers of the page and those that the browser still
runs, and the reads in flight. The last two fields record the run: every request that was sent, with
the newest first, and the length of the run. -/
structure LedgerPage (β : Type) where
  console : Console := {}
  view : LedgerKind → LedgerView β := fun _ => {}
  retryTimers : LedgerKind → Option Nat := fun _ => none
  running : List RetryTimer := []
  timers : Nat := 0
  reads : List LedgerRead := []
  requests : List LedgerRead := []
  steps : Nat := 0

/-- One step of the session, of the operator, of an answer, or of a timer. -/
inductive LedgerInput (β : Type) where
  | console (input : ConsoleInput)
  | read (kind : LedgerKind)
  | answer (index : Nat) (reply : LedgerReply β)
  | retry (index : Nat)

/-- These steps of the session show the login form. -/
def Console.showsLogin (console : Console) : ConsoleInput → Bool
  | .resumeAnswer index reply =>
      console.resumes[index]?.any fun request =>
        request.asked.generation = console.generation &&
          match checkSession reply with
          | .ok _ => false
          | .failed _ => true
  | .verifyAnswer index reply =>
      console.verifications[index]?.any fun request =>
        console.ownsSession request.asked.generation &&
          match checkSession reply with
          | .ok _ => false
          | .failed _ => true
  | .logoutAnswer index _ => console.logouts[index]?.isSome
  | .authFetchAnswer index status =>
      console.fetches[index]?.any fun request =>
        status = some 401 && console.ownsSession request.generation
  | _ => false

namespace LedgerPage

variable {β : Type}

section Step

variable (page : LedgerPage β)

def setView (kind : LedgerKind) (view : LedgerView β) : LedgerPage β :=
  { page with view := Function.update page.view kind view }

def ledgerSetBuilding (kind : LedgerKind) (building : Bool) : LedgerPage β :=
  page.setView kind { page.view kind with building := building }

def draw (kind : LedgerKind) (drawn : Drawn β) : LedgerPage β :=
  page.setView kind
    { page.view kind with drawings := drawn :: (page.view kind).drawings }

def ledgerStopRetry (kind : LedgerKind) : LedgerPage β :=
  { page with
    running := page.running.filter fun timer => page.retryTimers kind ≠ some timer.id
    retryTimers := Function.update page.retryTimers kind none }

def stopLedgerRetries : LedgerPage β :=
  let stopped := ((page.ledgerStopRetry .density).ledgerStopRetry .works).ledgerStopRetry .work
  { stopped with view := fun kind => { stopped.view kind with building := false } }

/-- The first part of a read runs until it waits for its answer. -/
def ledgerRead (kind : LedgerKind) : LedgerPage β :=
  let generation := (page.view kind).generation + 1
  let sent : LedgerRead := ⟨kind, generation, page.console.generation, page.steps⟩
  let stopped := page.ledgerStopRetry kind
  { stopped.setView kind
      { page.view kind with generation := generation, loading := true, error := none } with
    reads := page.reads ++ [sent]
    requests := sent :: page.requests }

/-- A read counts while no later one of its kind was sent. -/
def counts (read : LedgerRead) : Bool := (page.view read.kind).generation = read.generation

def ledgerBuilding (read : LedgerRead) (retryAfter : RetryAfter) : LedgerPage β :=
  let drawn := (page.ledgerSetBuilding read.kind true).draw read.kind ⟨read.sent, none⟩
  { drawn with
    retryTimers := Function.update page.retryTimers read.kind (some page.timers)
    running :=
      page.running ++ [⟨page.timers, read.kind, read.sent, ledgerRetryDelay retryAfter⟩]
    timers := page.timers + 1 }

/-- An error that is thrown in a read is shown. -/
def ledgerFailed (read : LedgerRead) (message : String) : LedgerPage β :=
  if page.counts read then
    let settled := page.ledgerSetBuilding read.kind false
    settled.setView read.kind { settled.view read.kind with error := some message }
  else page

/-- A read hides its spinner at its end. -/
def ledgerDone (read : LedgerRead) : LedgerPage β :=
  if page.counts read then
    page.setView read.kind { page.view read.kind with loading := false }
  else page

/-- The answer of an invalid session ends the session that it was asked for. -/
def expire (read : LedgerRead) : LedgerPage β :=
  if page.console.ownsSession read.session then
    { page with console := page.console.endSession "invalid" }.stopLedgerRetries
  else page

/-- The ledger is being built, unless a single work was read. -/
def notYetRefreshed (read : LedgerRead) (status : Nat) (detail : Option String) : Bool :=
  read.kind ≠ .work ∧ status = 503 ∧ detail = some ledgerNotRefreshed

/-- The second part of a read runs from its answer up to its end. -/
def settle (read : LedgerRead) : LedgerReply β → LedgerPage β
  | .failed message => page.ledgerFailed read message
  | .data body rejected =>
      if page.counts read then
        let drawn := (page.ledgerSetBuilding read.kind false).draw read.kind ⟨read.sent, some body⟩
        match rejected with
        | none => drawn
        | some message => drawn.ledgerFailed read message
      else page
  | .refused status detail retryAfter =>
      if status = 401 then (page.expire read).ledgerFailed read "Session expired"
      else if notYetRefreshed read status detail then
        if page.counts read then page.ledgerBuilding read retryAfter else page
      else page.ledgerFailed read (detail.getD s!"HTTP {status}")

def answer (index : Nat) (reply : LedgerReply β) : LedgerPage β :=
  match page.reads[index]? with
  | none => page
  | some read =>
      let answered := { page with reads := page.reads.eraseIdx index }
      (answered.settle read reply).ledgerDone read

/-- A timer that runs out reads again. -/
def retry (index : Nat) : LedgerPage β :=
  match page.running[index]? with
  | none => page
  | some timer => { page with running := page.running.eraseIdx index }.ledgerRead timer.kind

/-- The controls of the ledger are in the console, which the login form replaces. -/
def act : LedgerInput β → LedgerPage β
  | .console input =>
      let later := { page with console := page.console.step input }
      if page.console.showsLogin input then later.stopLedgerRetries else later
  | .read kind => if page.console.signedIn then page.ledgerRead kind else page
  | .answer index reply => page.answer index reply
  | .retry index => page.retry index

def step (input : LedgerInput β) : LedgerPage β :=
  { page.act input with steps := page.steps + 1 }

/-- The read of a kind that was sent last. -/
def newestRead (kind : LedgerKind) : Option LedgerRead :=
  page.requests.find? fun read => read.kind = kind

/-- The timers of a kind that the browser still runs. -/
def pending (kind : LedgerKind) : List RetryTimer :=
  page.running.filter fun timer => timer.kind = kind

end Step

end LedgerPage

/-- The page after the steps of a history, the newest first. -/
def ledgerAfter {β : Type} (signOutPending : Bool) (history : List (LedgerInput β)) :
    LedgerPage β :=
  after LedgerPage.step { console := { signOutPending := signOutPending } } history

/-- A retry waits for one second at least and for ten minutes at most. -/
theorem ledgerRetryDelay_bounds (retryAfter : RetryAfter) :
    ledgerRetryMinMs ≤ ledgerRetryDelay retryAfter ∧
      ledgerRetryDelay retryAfter ≤ ledgerRetryMaxMs := by
  unfold ledgerRetryDelay
  constructor
  · apply le_min
    · exact le_max_right _ _
    · decide
  · exact min_le_right _ _

section Login

variable (console : Console)

theorem resumeAnswer_signedIn (index : Nat) (reply : SessionReply)
    (signedIn : console.signedIn = true)
    (silent : console.showsLogin (.resumeAnswer index reply) = false) :
    (console.resumeAnswer index reply).signedIn = true := by
  unfold Console.showsLogin at silent
  dsimp only at silent
  unfold Console.resumeAnswer
  cases found : console.resumes[index]? with
  | none => exact signedIn
  | some request =>
      rw [found] at silent
      dsimp only
      split
      · rename_i current
        cases checked : checkSession reply with
        | ok session => rfl
        | failed reason => simp [current, checked] at silent
      · exact signedIn

theorem verifyAnswer_signedIn (index : Nat) (reply : SessionReply)
    (signedIn : console.signedIn = true)
    (silent : console.showsLogin (.verifyAnswer index reply) = false) :
    (console.verifyAnswer index reply).signedIn = true := by
  unfold Console.showsLogin at silent
  dsimp only at silent
  unfold Console.verifyAnswer
  cases found : console.verifications[index]? with
  | none => exact signedIn
  | some request =>
      rw [found] at silent
      dsimp only
      cases checked : checkSession reply with
      | ok session =>
          dsimp only
          split <;> exact signedIn
      | failed reason =>
          dsimp only
          split
          · rename_i owned
            simp [owned, checked] at silent
          · exact signedIn

theorem authFetchAnswer_signedIn (index : Nat) (status : Option Nat)
    (signedIn : console.signedIn = true)
    (silent : console.showsLogin (.authFetchAnswer index status) = false) :
    (console.authFetchAnswer index status).signedIn = true := by
  unfold Console.showsLogin at silent
  dsimp only at silent
  unfold Console.authFetchAnswer
  cases found : console.fetches[index]? with
  | none => exact signedIn
  | some request =>
      rw [found] at silent
      dsimp only
      split
      · rename_i invalid
        split
        · rename_i owned
          simp [owned, invalid] at silent
        · exact signedIn
      · exact signedIn

/-- Only a step that shows the login form ends a session. -/
theorem showsLogin_of_signedOut (input : ConsoleInput) (signedIn : console.signedIn = true)
    (ended : (console.step input).signedIn = false) : console.showsLogin input = true := by
  by_contra silent
  rw [Bool.not_eq_true] at silent
  have kept : (console.step input).signedIn = true := by
    change (console.act input).signedIn = true
    cases input with
    | resumeAnswer index reply => exact resumeAnswer_signedIn console index reply signedIn silent
    | verifyAnswer index reply => exact verifyAnswer_signedIn console index reply signedIn silent
    | authFetchAnswer index status =>
        exact authFetchAnswer_signedIn console index status signedIn silent
    | logoutAnswer index status =>
        unfold Console.showsLogin at silent
        dsimp only at silent
        unfold Console.act Console.logoutAnswer
        dsimp only
        cases found : console.logouts[index]? with
        | none => exact signedIn
        | some request => simp [found] at silent
    | loaded =>
        unfold Console.act Console.start
        dsimp only
        split
        · split <;> exact signedIn
        · exact signedIn
    | loginAnswer succeeded =>
        unfold Console.act Console.loginAnswer
        dsimp only
        split
        · exact signedIn
        · split <;> exact signedIn
    | watchTick =>
        unfold Console.act Console.watchTick
        dsimp only
        split <;> exact signedIn
    | expiryTick =>
        unfold Console.act Console.expiryTick
        dsimp only
        split <;> exact signedIn
    | checkRequested =>
        unfold Console.act Console.onSessionCheckRequested
        dsimp only
        split <;> exact signedIn
    | login => exact signedIn
    | logout => exact signedIn
    | authFetch => exact signedIn
  rw [kept] at ended
  exact absurd ended (by decide)

end Login

end OperationsConsole.Browser
