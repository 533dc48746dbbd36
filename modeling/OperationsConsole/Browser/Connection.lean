/-
This file embeds the live connection of the `Dashboard` class in `dashboard.js`.
The page trades its session for a ticket, opens a socket with it, and reconnects after a delay.
-/

import OperationsConsole.Library.Loop

namespace OperationsConsole.Browser

open Library

def reconnectBaseMs : Nat := 5000

def reconnectMaxMs : Nat := 60000

def wsCloseUnauthenticated : Nat := 4401

/-- A socket of the browser goes through these states. -/
inductive ReadyState where
  | connecting
  | opened
  | closing
  | closed
  deriving DecidableEq

/-- The page keeps a socket that is connecting or open. -/
def ReadyState.live : ReadyState → Bool
  | .connecting => true
  | .opened => true
  | _ => false

/-- A socket that is closed by the page waits for its close event. -/
def ReadyState.close : ReadyState → ReadyState
  | .connecting => .closing
  | .opened => .closing
  | state => state

/-- The console refuses a ticket with a 401, the request fails, or a body arrives. -/
inductive TicketAnswer where
  | unauthenticated
  | failed
  | body (ticket : Option String)

/-- The log of the connection lists what the page did, the newest event first. A socket is logged
with its ticket and with the session in which the ticket was requested. -/
inductive ConnectionEvent where
  | begun (session : Nat)
  | stopped
  | scheduled (delay : Nat)
  | fired
  | opened (ticket : String) (requested : Option Nat)
  | delivered
  | sessionCheck
  deriving DecidableEq

/-- The first six fields belong to the page. The others belong to the browser: the sessions of the
ticket requests in flight, every socket under its index, and the pending timers. -/
structure Connection where
  active : Bool := false
  session : Option Nat := none
  ws : Option Nat := none
  connecting : Bool := false
  reconnectTimer : Option Nat := none
  reconnectDelay : Nat := reconnectBaseMs
  requests : List (Option Nat) := []
  sockets : List ReadyState := []
  timers : List Nat := []
  timerIds : Nat := 0
  log : List ConnectionEvent := []
  deriving DecidableEq

/-- One step of the page, of its timers, of a socket, or of an answer. -/
inductive ConnectionInput where
  | start (session : Option Nat)
  | stop
  | ticketAnswer (index : Nat) (answer : TicketAnswer)
  | socketOpen (socket : Nat)
  | socketMessage (socket : Nat)
  | socketClosing (socket : Nat)
  | socketClose (socket : Nat) (code : Nat)
  | timer (id : Nat)

namespace Connection

section Step

variable (page : Connection)

def record (event : ConnectionEvent) : Connection := { page with log := event :: page.log }

def requestSessionCheck : Connection := page.record .sessionCheck

/-- The page has a socket that is connecting or open. -/
def connected : Bool :=
  page.ws.any fun socket => page.sockets[socket]?.any ReadyState.live

def initializeWebSocket : Connection :=
  if !page.active || page.connecting then page
  else if page.connected then page
  else { page with
    connecting := true
    requests := page.requests ++ [page.session] }

/-- One reconnect is scheduled after the current delay, and then the delay doubles. -/
def reconnect : Connection :=
  if !page.active || page.reconnectTimer.isSome then page
  else { page with
    reconnectDelay := min (page.reconnectDelay * 2) reconnectMaxMs
    reconnectTimer := some page.timerIds
    timers := page.timers ++ [page.timerIds]
    timerIds := page.timerIds + 1
    log := .scheduled page.reconnectDelay :: page.log }

/-- The socket of the page starts to close. -/
def closeSocket : Connection :=
  match page.ws with
  | none => page
  | some socket => { page with sockets := page.sockets.modify socket ReadyState.close }

/-- The page replaces its socket by a new one. -/
def openSocket (ticket : String) (requested : Option Nat) : Connection :=
  let replaced := page.closeSocket
  { replaced with
    ws := some replaced.sockets.length
    sockets := replaced.sockets ++ [.connecting]
    log := .opened ticket requested :: replaced.log }

/-- The answer of a ticket request opens a socket, schedules a reconnect, or leaves the decision to
the session check. An empty ticket is no ticket. -/
def ticketAnswer (index : Nat) (answer : TicketAnswer) : Connection :=
  match page.requests[index]? with
  | none => page
  | some requested =>
      let answered := { page with
        connecting := false
        requests := page.requests.eraseIdx index }
      match answer with
      | .unauthenticated => answered.requestSessionCheck
      | .failed => if page.active then answered.reconnect else answered
      | .body ticket =>
          match ticket.filter fun text => text ≠ "" with
          | none => answered
          | some text => if page.active then answered.openSocket text requested else answered

def onopen (socket : Nat) : Connection :=
  if page.sockets[socket]? = some .connecting then
    { page with sockets := page.sockets.set socket .opened }
  else page

/-- Only an open socket delivers frames, and a frame resets the delay. -/
def onmessage (socket : Nat) : Connection :=
  if page.sockets[socket]? = some .opened then
    { page with
      reconnectDelay := reconnectBaseMs
      log := .delivered :: page.log }
  else page

/-- The server starts to close a socket. -/
def socketClosing (socket : Nat) : Connection :=
  { page with sockets := page.sockets.modify socket ReadyState.close }

/-- A socket that was replaced or stopped must not trigger a reconnect. -/
def onclose (socket : Nat) (code : Nat) : Connection :=
  if page.ws ≠ some socket then page
  else if !page.active then page
  else
    let gone := { page with ws := none }
    if code = wsCloseUnauthenticated then gone.requestSessionCheck else gone.reconnect

def socketClose (socket : Nat) (code : Nat) : Connection :=
  match page.sockets[socket]? with
  | none => page
  | some .closed => page
  | some _ => { page with sockets := page.sockets.set socket .closed }.onclose socket code

/-- A pending timer clears the reconnect and opens the connection again. -/
def timer (id : Nat) : Connection :=
  if id ∈ page.timers then
    { page with
      timers := page.timers.erase id
      reconnectTimer := none
      log := .fired :: page.log }.initializeWebSocket
  else page

/-- The same session reconnects on the backoff, and another one connects at once. -/
def start (session : Option Nat) : Connection :=
  match session with
  | none => page
  | some current =>
      if page.active && page.session = some current then page.reconnect
      else { page with
        session := some current
        active := true
        reconnectDelay := reconnectBaseMs
        log := .begun current :: page.log }.initializeWebSocket

def stop : Connection :=
  { page.closeSocket with
    active := false
    session := none
    reconnectDelay := reconnectBaseMs
    timers := page.reconnectTimer.elim page.timers page.timers.erase
    reconnectTimer := none
    ws := none
    log := .stopped :: page.log }

def step : ConnectionInput → Connection
  | .start session => page.start session
  | .stop => page.stop
  | .ticketAnswer index answer => page.ticketAnswer index answer
  | .socketOpen socket => page.onopen socket
  | .socketMessage socket => page.onmessage socket
  | .socketClosing socket => page.socketClosing socket
  | .socketClose socket code => page.socketClose socket code
  | .timer id => page.timer id

end Step

end Connection

/-- The connection of a fresh page after the steps of a history, the newest first. -/
def connectionAfter (history : List ConnectionInput) : Connection :=
  after Connection.step {} history

end OperationsConsole.Browser
