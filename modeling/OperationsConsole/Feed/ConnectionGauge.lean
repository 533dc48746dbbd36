/-
This file decides when the gauge of the live connections equals the size of the set.
A broadcast counts its failed sockets out even when one of them has left in the meantime.
-/

import Mathlib.Algebra.Ring.Int.Defs
import OperationsConsole.Feed.WebSocketConnections

namespace OperationsConsole.Feed

open Library

variable {α : Type*} [DecidableEq α]

/-- The gauge records this delta for an event. -/
def delta : GaugeEvent α → Int
  | .joined _ => 1
  | .left websockets => -websockets.card

def gauge (log : List (GaugeEvent α)) : Int := (log.map delta).sum

/-- So often the gauge counts a socket in. -/
def countedIn (websocket : α) : List (GaugeEvent α) → Nat
  | [] => 0
  | .joined other :: past => countedIn websocket past + if other = websocket then 1 else 0
  | .left _ :: past => countedIn websocket past

/-- So often the gauge counts a socket out. -/
def countedOut (websocket : α) : List (GaugeEvent α) → Nat
  | [] => 0
  | .joined _ :: past => countedOut websocket past
  | .left websockets :: past =>
      countedOut websocket past + if websocket ∈ websockets then 1 else 0

/-- The gauge is the number of connections, and every socket is counted out exactly once for each
time it was counted in, unless it is in the set. -/
structure GaugeExact (state : WebSocketConnections α) : Prop where
  total : gauge state.log = state.connections.card
  nonnegative : 0 ≤ gauge state.log
  once : ∀ websocket, countedIn websocket state.log =
    countedOut websocket state.log + if websocket ∈ state.connections then 1 else 0

/-- A socket registers outside the set, and a failed socket is still in the set when its broadcast
settles. -/
def CountedOnce (state : WebSocketConnections α) : ConnectionsInput α → Prop
  | .register websocket => websocket ∉ state.connections
  | .add websocket => websocket ∉ state.connections
  | .settle index failed => ∀ targets, state.broadcasts[index]? = some (.sending targets) →
      ∀ websocket ∈ targets, websocket ∈ failed → websocket ∈ state.connections
  | _ => True

section Steps

variable (state later : WebSocketConnections α)

/-- A step that changes neither the set nor the log keeps the gauge exact. -/
theorem exact_of_same (exact : GaugeExact state) (log : later.log = state.log)
    (connections : later.connections = state.connections) : GaugeExact later := by
  obtain ⟨total, nonnegative, once⟩ := exact
  constructor
  · rw [log, connections]
    exact total
  · rw [log]
    exact nonnegative
  · rw [log, connections]
    exact once

/-- A socket is counted in exactly when it joins from outside the set. -/
theorem joined_exact_iff (websocket : α) (exact : GaugeExact state)
    (log : later.log = .joined websocket :: state.log)
    (connections : later.connections = insert websocket state.connections) :
    GaugeExact later ↔ websocket ∉ state.connections := by
  have total : gauge later.log = 1 + state.connections.card := by
    rw [log, ← exact.total]
    simp [gauge, delta]
  constructor
  · intro counted member
    have size := counted.total
    rw [total, connections, Finset.insert_eq_of_mem member] at size
    omega
  · intro outside
    constructor
    · rw [total, connections, Finset.card_insert_of_notMem outside]
      omega
    · omega
    · intro other
      have before := exact.once other
      rw [log, connections]
      simp only [countedIn, countedOut, Finset.mem_insert]
      by_cases same : websocket = other
      · rw [← same] at before ⊢
        simp only [outside, if_false] at before
        simp [before]
      · simp [before, same, Ne.symm same]

/-- Sockets are counted out exactly when all of them are in the set. -/
theorem left_exact_iff (websockets : Finset α) (exact : GaugeExact state)
    (log : later.log = .left websockets :: state.log)
    (connections : later.connections = state.connections \ websockets) :
    GaugeExact later ↔ websockets ⊆ state.connections := by
  have total : gauge later.log = state.connections.card - websockets.card := by
    rw [log, ← exact.total]
    simp only [gauge, List.map_cons, List.sum_cons, delta]
    omega
  have split := Finset.card_sdiff_add_card_inter state.connections websockets
  constructor
  · intro counted
    have size := counted.total
    rw [total, connections] at size
    have whole : websockets.card ≤ (state.connections ∩ websockets).card := by
      omega
    have same := Finset.eq_of_subset_of_card_le Finset.inter_subset_right whole
    exact Finset.inter_eq_right.mp same
  · intro inside
    rw [Finset.inter_eq_right.mpr inside] at split
    have size : gauge later.log = later.connections.card := by
      rw [total, connections]
      omega
    constructor
    · exact size
    · omega
    · intro other
      have before := exact.once other
      rw [log, connections]
      simp only [countedIn, countedOut, Finset.mem_sdiff]
      by_cases gone : other ∈ websockets
      · simp only [inside gone, if_true] at before
        simp [before, gone]
      · simp [before, gone]

theorem discard_exact (websocket : α) (exact : GaugeExact state)
    (member : websocket ∈ state.connections)
    (log : later.log = .left {websocket} :: state.log)
    (connections : later.connections = state.connections.erase websocket) :
    GaugeExact later := by
  rw [Finset.erase_eq] at connections
  rw [left_exact_iff state later {websocket} exact log connections]
  exact Finset.singleton_subset_iff.mpr member

theorem settle_exact_iff (index : Nat) (failed : Finset α) (exact : GaugeExact state) :
    GaugeExact (state.settle index failed) ↔ CountedOnce state (.settle index failed) := by
  unfold WebSocketConnections.settle
  split
  · rename_i targets sending
    have condition : CountedOnce state (.settle index failed) ↔
        targets ∩ failed ⊆ state.connections := by
      constructor
      · intro counted websocket member
        rw [Finset.mem_inter] at member
        exact counted targets sending websocket member.1 member.2
      · intro inside other found websocket target broken
        rw [sending, Option.some.injEq, Broadcast.sending.injEq] at found
        rw [← found] at target
        exact inside (Finset.mem_inter.mpr ⟨target, broken⟩)
    rw [condition]
    dsimp only
    split
    · rename_i none_failed
      rw [none_failed]
      exact iff_of_true (exact_of_same state _ exact rfl rfl) (Finset.empty_subset _)
    · exact left_exact_iff state _ (targets ∩ failed) exact rfl rfl
  · rename_i idle
    apply iff_of_true exact
    intro targets sending
    exact absurd sending (idle targets)

/-- A step keeps the gauge exact exactly when it counts every socket once. -/
theorem step_exact_iff (input : ConnectionsInput α) (exact : GaugeExact state) :
    GaugeExact (state.step input) ↔ CountedOnce state input := by
  cases input with
  | register websocket =>
      show GaugeExact (state.register websocket) ↔ websocket ∉ state.connections
      unfold WebSocketConnections.register
      dsimp only
      split <;> exact joined_exact_iff state _ websocket exact rfl rfl
  | add websocket => exact joined_exact_iff state _ websocket exact rfl rfl
  | discard websocket =>
      apply iff_of_true ?_ trivial
      show GaugeExact (state.discard websocket)
      unfold WebSocketConnections.discard
      dsimp only
      split
      · rename_i member
        exact discard_exact state _ websocket exact member rfl rfl
      · exact exact_of_same state _ exact rfl rfl
  | discardWebsocket websocket =>
      apply iff_of_true ?_ trivial
      show GaugeExact (state.discardWebsocket websocket)
      unfold WebSocketConnections.discardWebsocket
      split
      · rename_i present
        simp only [Bool.and_eq_true, decide_eq_true_eq] at present
        exact discard_exact state _ websocket exact present.2 rfl rfl
      · exact exact
  | closeAll =>
      apply iff_of_true ?_ trivial
      have empty : state.closeAll.connections = state.connections \ state.connections := by
        rw [Finset.sdiff_self]
        rfl
      exact (left_exact_iff state _ state.connections exact rfl empty).mpr Finset.Subset.rfl
  | broadcast =>
      apply iff_of_true ?_ trivial
      show GaugeExact state.broadcast
      unfold WebSocketConnections.broadcast
      split
      · exact exact
      · exact exact_of_same state _ exact rfl rfl
  | snapshot index =>
      apply iff_of_true ?_ trivial
      show GaugeExact (state.snapshot index)
      unfold WebSocketConnections.snapshot
      split
      · exact exact_of_same state _ exact rfl rfl
      · exact exact
  | settle index failed => exact settle_exact_iff state index failed exact

end Steps

/-- The gauge is exact after every step of a run exactly when every step of it counts its sockets
once. -/
theorem gaugeExact_iff (history : List (ConnectionsInput α)) :
    (∀ earlier, earlier <:+ history → GaugeExact (connectionsAfter earlier)) ↔
      Guarded WebSocketConnections.step {} CountedOnce history := by
  apply guarded_states_iff WebSocketConnections.step {} CountedOnce GaugeExact
  · constructor
    · rfl
    · exact Int.le_refl _
    · intro websocket
      rfl
  · intro input older before
    exact step_exact_iff _ input before

/-- A socket leaves while a broadcast still sends to it, and then the send fails. -/
def leftWhileSending : List (ConnectionsInput Nat) :=
  [.settle 0 {1}, .discardWebsocket 1, .snapshot 0, .broadcast, .register 1]

/-- The gauge is negative after the socket is counted out twice. -/
theorem gaugeExact_fails : ¬ GaugeExact (connectionsAfter leftWhileSending) := by
  intro exact
  have nonnegative := exact.nonnegative
  revert nonnegative
  decide

end OperationsConsole.Feed
