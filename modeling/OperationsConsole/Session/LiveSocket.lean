/-
This file embeds the WebSocket endpoint of `dashboard/dashboard.py` as a machine over the gate.
Every step starts at an await point of the endpoint, and any other task may run in between.
-/

import OperationsConsole.Session.GateRun

namespace OperationsConsole.Session

open Library

def wsSessionRecheckSeconds : Seconds := 30

def wsCloseUnauthenticated : Nat := 4401

def wsCloseUnavailable : Nat := 4503

def wsCloseCode : Reason → Nat
  | .unavailable => wsCloseUnavailable
  | _ => wsCloseUnauthenticated

/-- The endpoint and the broadcasts record what they do with the socket. -/
inductive SocketEvent where
  | redeemed (token : String)
  | asked (call : Nat) (token : String)
  | answered (call : Nat) (answer : Answer)
  | rejected (reason : Reason)
  | joined
  | targeted
  | dropped
  | left
  | closed (code : Nat)
  | failed

/-- The loop of the endpoint keeps its bearer, its last live session, and its next check. -/
structure Schedule where
  token : String
  session : AdminSession
  nextCheck : Seconds

/-- The endpoint waits at one of these await points. -/
inductive Phase where
  | idle
  | accepting (grant : Option TicketGrant)
  | checking (token : String) (call : Nat)
  | joining (token : String) (session : AdminSession)
  | sendingMetrics (token : String) (session : AdminSession)
  | sendingBacklog (token : String) (session : AdminSession)
  | waiting (schedule : Schedule) (deadline : Seconds)
  | rechecking (schedule : Schedule) (call : Nat)
  | refusing (code : Nat)
  | leaving (code : Nat)
  | closing (code : Nat)
  | discarding
  | ended

/-- The endpoint has a next check while its loop waits for a frame or for a re-check. -/
def Phase.nextCheck : Phase → Option Seconds
  | .waiting schedule _ => some schedule.nextCheck
  | .rechecking schedule _ => some schedule.nextCheck
  | _ => none

/-- One socket lives beside the gate. The membership tells whether broadcasts target it, and the
log lists the recorded events with the newest one first. -/
structure LiveSocket where
  gate : GateRun
  phase : Phase := .idle
  connected : Bool := false
  latestMetrics : Bool := false
  log : List SocketEvent := []

/-- A step of the server moves the gate, the endpoint, or the set of connections. -/
inductive SocketInput where
  | gate (input : GateInput)
  | connect (ticket : Option String)
  | proceed
  | fail
  | frame
  | timeout
  | disconnect
  | broadcast
  | drop
  | collect

/-- This call number is larger than that of every check in flight. -/
def GateRun.unusedCall (run : GateRun) : Nat :=
  (run.checks.items.map Prod.fst).foldr max 0 + 1

/-- A step of the gate may be the answer of one call. -/
def GateRun.answerTo (platform : Platform) (run : GateRun) (call : Nat) :
    GateInput → Option (Answer × Verdict)
  | .answer number reply =>
      if number = call then
        (run.returned platform (.answer number reply)).map fun found =>
          (⟨found.1, reply, run.now⟩, found.2)
      else none
  | _ => none

namespace LiveSocket

section Step

variable (platform : Platform)

def record (live : LiveSocket) (event : SocketEvent) : LiveSocket :=
  { live with log := event :: live.log }

def enter (live : LiveSocket) (phase : Phase) : LiveSocket := { live with phase := phase }

/-- A fresh validation ends at once with an invalid answer, or it waits for catalog-api. -/
def validateToken (live : LiveSocket) (token : String) (pending : Nat → Phase)
    (done : LiveSocket → Verdict → LiveSocket) : LiveSocket :=
  let call := live.gate.unusedCall
  let input := GateInput.validate call token true
  let asked := { live with gate := live.gate.step platform input }.record (.asked call token)
  match live.gate.returned platform input with
  | some found => done asked found.2
  | none => asked.enter (pending call)

/-- The first check admits the socket, or it closes it before it joins. -/
def welcome (token : String) (live : LiveSocket) : Verdict → LiveSocket
  | .ok session => live.enter (.joining token session)
  | .error reason => (live.record (.rejected reason)).enter (.refusing (wsCloseCode reason))

/-- The loop waits for a frame until the next check or the expiry of the session. -/
def receive (live : LiveSocket) (schedule : Schedule) : LiveSocket :=
  let now := live.gate.now
  let wait := max (min (schedule.nextCheck - now.monotonic) (schedule.session.secondsLeft now.wall)) 0
  live.enter (.waiting schedule (now.monotonic + wait))

/-- A re-check moves the schedule, or the socket leaves before it is closed. -/
def resume (schedule : Schedule) (live : LiveSocket) : Verdict → LiveSocket
  | .ok session => live.receive
      ⟨schedule.token, session, live.gate.now.monotonic + wsSessionRecheckSeconds⟩
  | .error reason => (live.record (.rejected reason)).enter (.leaving (wsCloseCode reason))

/-- The head of the loop starts a re-check that is due before it waits for a frame. -/
def loopHead (live : LiveSocket) (schedule : Schedule) : LiveSocket :=
  if schedule.nextCheck ≤ live.gate.now.monotonic ∨
      schedule.session.secondsLeft live.gate.now.wall ≤ 0 then
    live.validateToken platform schedule.token (.rechecking schedule) (resume schedule)
  else live.receive schedule

/-- The gate moves, and the endpoint continues when the step answers its own check. -/
def hear (live : LiveSocket) (input : GateInput) : LiveSocket :=
  let moved := { live with gate := live.gate.step platform input }
  match live.phase with
  | .checking token call =>
      match live.gate.answerTo platform call input with
      | some found => (moved.record (.answered call found.1)).welcome token found.2
      | none => moved
  | .rechecking schedule call =>
      match live.gate.answerTo platform call input with
      | some found => resume schedule (moved.record (.answered call found.1)) found.2
      | none => moved
  | _ => moved

/-- The endpoint redeems its ticket when the connection opens. -/
def connect (live : LiveSocket) (ticket : Option String) : LiveSocket :=
  match live.phase with
  | .idle =>
      let grant := (live.gate.gate.tickets.redeem platform ticket live.gate.now).2
      let redeemed := { live with gate := live.gate.step platform (.redeem ticket) }
      match grant with
      | some found => (redeemed.record (.redeemed found.token)).enter (.accepting grant)
      | none => redeemed.enter (.accepting grant)
  | _ => live

/-- The awaited accept, lock, send, or close of the endpoint has finished. -/
def proceed (live : LiveSocket) : LiveSocket :=
  match live.phase with
  | .accepting none => live.enter (.refusing wsCloseUnauthenticated)
  | .accepting (some grant) =>
      live.validateToken platform grant.token (.checking grant.token) (welcome grant.token)
  | .joining token session =>
      ({ live with connected := true }.record .joined).enter
        (if live.latestMetrics then .sendingMetrics token session else .sendingBacklog token session)
  | .sendingMetrics token session => live.enter (.sendingBacklog token session)
  | .sendingBacklog token session =>
      live.loopHead platform
        ⟨token, session, live.gate.now.monotonic + wsSessionRecheckSeconds⟩
  | .refusing code => (live.record (.closed code)).enter .ended
  | .leaving code => ({ live with connected := false }.record .left).enter (.closing code)
  | .closing code => (live.record (.closed code)).enter .ended
  | .discarding => ({ live with connected := false }.record .left).enter .ended
  | _ => live

/-- A check that fails without a verdict is no longer in flight. -/
def abandon (live : LiveSocket) (call : Nat) : LiveSocket :=
  { live with gate := { live.gate with checks := live.gate.checks.erase call } }

/-- The awaited operation of the endpoint raises an error that is no rejection. -/
def fail (live : LiveSocket) : LiveSocket :=
  match live.phase with
  | .accepting _ => (live.record .failed).enter .ended
  | .checking _ call => ((live.abandon call).record .failed).enter .ended
  | .sendingMetrics _ _ => (live.record .failed).enter .discarding
  | .sendingBacklog _ _ => (live.record .failed).enter .discarding
  | .waiting _ _ => (live.record .failed).enter .discarding
  | .rechecking _ call => ((live.abandon call).record .failed).enter .discarding
  | .refusing _ => (live.record .failed).enter .ended
  | .closing _ => (live.record .failed).enter .discarding
  | _ => live

/-- A frame or the end of the wait takes the loop to its head. -/
def wake (live : LiveSocket) : LiveSocket :=
  match live.phase with
  | .waiting schedule _ => live.loopHead platform schedule
  | _ => live

def disconnect (live : LiveSocket) : LiveSocket :=
  match live.phase with
  | .waiting _ _ => live.enter .discarding
  | _ => live

/-- A broadcast that starts now targets the sockets that are connected now. -/
def broadcast (live : LiveSocket) : LiveSocket :=
  if live.connected then live.record .targeted else live

/-- A failed send of a broadcast or the shutdown of the server drops the connection. -/
def drop (live : LiveSocket) : LiveSocket :=
  if live.connected then { live with connected := false }.record .dropped else live

def step (live : LiveSocket) : SocketInput → LiveSocket
  | .gate input => live.hear platform input
  | .connect ticket => live.connect platform ticket
  | .proceed => live.proceed platform
  | .fail => live.fail
  | .frame => live.wake platform
  | .timeout => live.wake platform
  | .disconnect => live.disconnect
  | .broadcast => live.broadcast
  | .drop => live.drop
  | .collect => { live with latestMetrics := true }

end Step

end LiveSocket

/-- The socket after the steps of a history, the newest first. -/
def socketAfter (platform : Platform) (cacheSeconds : Seconds) (start : Instant)
    (history : List SocketInput) : LiveSocket :=
  after (LiveSocket.step platform)
    { gate := { now := start, gate := SessionGate.configure cacheSeconds } } history

end OperationsConsole.Session
