/-
This file embeds the set of connections in `dashboard/dashboard.py` with the gauge that counts it.
Every critical section is one step, and any other task may run while a broadcast sends.
-/

import Mathlib.Algebra.BigOperators.Group.List.Basic
import Mathlib.Data.Finset.Card
import OperationsConsole.Library.Loop

namespace OperationsConsole.Feed

open Library

variable {α : Type*} [DecidableEq α]

/-- The gauge counts one socket in, or it counts some sockets out. -/
inductive GaugeEvent (α : Type*) where
  | joined (websocket : α)
  | left (websockets : Finset α)

/-- A broadcast waits for the lock, or it sends to the sockets of its snapshot. -/
inductive Broadcast (α : Type*) where
  | waiting
  | sending (targets : Finset α)

/-- The set of connections lives beside the broadcasts in flight. The log lists what the gauge
recorded, the newest event first. -/
structure WebSocketConnections (α : Type*) where
  connections : Finset α := ∅
  lock : Bool := false
  broadcasts : List (Broadcast α) := []
  log : List (GaugeEvent α) := []

/-- One critical section, or the start of a broadcast. A broadcast settles with the sockets whose
sends failed or timed out. -/
inductive ConnectionsInput (α : Type*) where
  | register (websocket : α)
  | add (websocket : α)
  | discard (websocket : α)
  | discardWebsocket (websocket : α)
  | closeAll
  | broadcast
  | snapshot (index : Nat)
  | settle (index : Nat) (failed : Finset α)

namespace WebSocketConnections

section Step

variable (state : WebSocketConnections α)

def record (event : GaugeEvent α) : WebSocketConnections α :=
  { state with log := event :: state.log }

/-- The lock is created with its first use. -/
def getLock : WebSocketConnections α := { state with lock := true }

def add (websocket : α) : WebSocketConnections α :=
  { state.getLock with connections := insert websocket state.connections }.record (.joined websocket)

def discard (websocket : α) : WebSocketConnections α :=
  let locked := state.getLock
  if websocket ∈ state.connections then
    { locked with connections := state.connections.erase websocket }.record (.left {websocket})
  else locked

def closeAll : WebSocketConnections α :=
  { state.getLock with connections := ∅ }.record (.left state.connections)

/-- A broadcast without connections sends nothing. -/
def broadcast : WebSocketConnections α :=
  if state.connections = ∅ then state
  else { state with broadcasts := state.broadcasts ++ [.waiting] }

def snapshot (index : Nat) : WebSocketConnections α :=
  match state.broadcasts[index]? with
  | some .waiting =>
      { state.getLock with broadcasts := state.broadcasts.set index (.sending state.connections) }
  | _ => state

/-- The failed sockets leave the set, and the gauge counts every one of them out. -/
def settle (index : Nat) (failed : Finset α) : WebSocketConnections α :=
  match state.broadcasts[index]? with
  | some (.sending targets) =>
      let disconnected := targets ∩ failed
      let settled := { state with broadcasts := state.broadcasts.eraseIdx index }
      if disconnected = ∅ then settled
      else { settled.getLock with connections := state.connections \ disconnected }.record
        (.left disconnected)
  | _ => state

/-- The endpoint registers its socket under the lock that it creates. -/
def register (websocket : α) : WebSocketConnections α :=
  let locked := if state.lock then state else { state with lock := true }
  { locked with connections := insert websocket state.connections }.record (.joined websocket)

/-- The endpoint discards its socket when there is a lock. -/
def discardWebsocket (websocket : α) : WebSocketConnections α :=
  if state.lock && decide (websocket ∈ state.connections) then
    { state with connections := state.connections.erase websocket }.record (.left {websocket})
  else state

def step : ConnectionsInput α → WebSocketConnections α
  | .register websocket => state.register websocket
  | .add websocket => state.add websocket
  | .discard websocket => state.discard websocket
  | .discardWebsocket websocket => state.discardWebsocket websocket
  | .closeAll => state.closeAll
  | .broadcast => state.broadcast
  | .snapshot index => state.snapshot index
  | .settle index failed => state.settle index failed

end Step

end WebSocketConnections

/-- The set of connections after the steps of a history, the newest first. -/
def connectionsAfter (history : List (ConnectionsInput α)) : WebSocketConnections α :=
  after WebSocketConnections.step {} history

end OperationsConsole.Feed
