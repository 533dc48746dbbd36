/-
This file embeds the collection loop of `dashboard/dashboard.py` with its cadence.
The clock advances by what each collection, each broadcast, and each sleep really takes.
-/

import Mathlib.Algebra.Order.Ring.Rat
import Mathlib.Tactic.Linarith
import OperationsConsole.Events.Detector

namespace OperationsConsole

open Library

def activePollSeconds : Seconds := 2

def idlePollSeconds : Seconds := 30

/-- The loop pauses for this time after an exception. -/
def failurePauseSeconds : Seconds := 5

/-- One sleep of the wait takes some time and ends with or without viewers. -/
structure Tick where
  slept : Seconds
  viewers : Bool
  deriving DecidableEq

/-- The wait returns the time it took, or nothing while it still sleeps. -/
def waitForNextCycle (waited elapsed : Seconds) : List Tick → Option Seconds
  | [] => none
  | tick :: later =>
      if tick.viewers ∨ idlePollSeconds ≤ waited + activePollSeconds then some (elapsed + tick.slept)
      else waitForNextCycle (waited + activePollSeconds) (elapsed + tick.slept) later

/-- One pass of the loop completes, or an exception ends it before or after the reading. -/
inductive Cycle where
  | completed (collection : Seconds) (metrics : SystemMetrics) (broadcast : Seconds)
      (ticks : List Tick)
  | failed (collection : Seconds) (metrics : Option SystemMetrics) (broadcast pause : Seconds)

namespace Cycle

/-- The reading of a pass is stamped at the end of its collection. -/
def reading (clock : Seconds) : Cycle → Option SystemMetrics
  | .completed collection metrics _ _ => some { metrics with timestamp := clock + collection }
  | .failed collection metrics _ _ =>
      metrics.map fun metrics => { metrics with timestamp := clock + collection }

/-- The time between the reading of a pass and the start of the next pass. -/
def rest : Cycle → Seconds
  | .completed _ _ broadcast ticks => broadcast + (waitForNextCycle 0 0 ticks).getD 0
  | .failed _ _ broadcast pause => broadcast + pause

def collection : Cycle → Seconds
  | .completed collection _ _ _ => collection
  | .failed collection _ _ _ => collection

/-- Every part of a pass takes at least its nominal time, and its wait ends. -/
def Valid : Cycle → Prop
  | .completed collection _ broadcast ticks =>
      0 ≤ collection ∧ 0 ≤ broadcast ∧ (∀ tick ∈ ticks, activePollSeconds ≤ tick.slept) ∧
        (waitForNextCycle 0 0 ticks).isSome
  | .failed collection _ broadcast pause =>
      0 ≤ collection ∧ 0 ≤ broadcast ∧ failurePauseSeconds ≤ pause

end Cycle

/-- The state of the loop holds its clock, its detector, and the readings it observed. -/
structure CollectionLoop where
  clock : Seconds
  events : Detector := {}
  latestMetrics : Option SystemMetrics := none
  observed : List SystemMetrics := []

namespace CollectionLoop

/-- One pass observes its reading, if it has one, and then waits. -/
def pass (config : DetectorConfig) (state : CollectionLoop) (cycle : Cycle) : CollectionLoop :=
  let clock := state.clock + cycle.collection + cycle.rest
  match cycle.reading state.clock with
  | none => { state with clock := clock }
  | some metrics =>
      let observation := observe config state.events metrics
      ⟨clock, observation.state, some observation.metrics, metrics :: state.observed⟩

end CollectionLoop

/-- A run of the loop makes the passes of a history, the newest first. -/
def collectMetricsLoop (config : DetectorConfig) (start : Seconds) (cycles : List Cycle) :
    CollectionLoop :=
  after (CollectionLoop.pass config) { clock := start } cycles

/-- The loop's detector has observed the loop's readings. -/
theorem collectMetricsLoop_events (config : DetectorConfig) (start : Seconds)
    (cycles : List Cycle) :
    (collectMetricsLoop config start cycles).events =
      detectorAfter config (collectMetricsLoop config start cycles).observed := by
  induction cycles with
  | nil => rfl
  | cons cycle earlier ih =>
      change (CollectionLoop.pass config (collectMetricsLoop config start earlier) cycle).events =
        detectorAfter config
          (CollectionLoop.pass config (collectMetricsLoop config start earlier) cycle).observed
      unfold CollectionLoop.pass
      dsimp only
      split
      · exact ih
      · dsimp only
        rw [ih]
        rfl

/-- The wait takes at least as long as it has taken so far. -/
theorem waitForNextCycle_le (waited elapsed spent : Seconds) (ticks : List Tick)
    (nominal : ∀ tick ∈ ticks, activePollSeconds ≤ tick.slept)
    (ended : waitForNextCycle waited elapsed ticks = some spent) : elapsed ≤ spent := by
  induction ticks generalizing waited elapsed with
  | nil => simp [waitForNextCycle] at ended
  | cons tick later ih =>
      have slept : 2 ≤ tick.slept := nominal tick List.mem_cons_self
      rw [waitForNextCycle] at ended
      split at ended
      · rw [Option.some.injEq] at ended
        linarith
      · have more := ih _ _ (fun other member => nominal other (List.mem_cons_of_mem _ member)) ended
        linarith

namespace Cycle

/-- No part of a valid pass takes negative time. -/
theorem Valid.nonneg (cycle : Cycle) (valid : cycle.Valid) :
    0 ≤ cycle.collection ∧ 0 ≤ cycle.rest := by
  cases cycle with
  | completed collection metrics broadcast ticks =>
      obtain ⟨collected, sent, nominal, ended⟩ := valid
      obtain ⟨spent, wait⟩ := Option.isSome_iff_exists.mp ended
      have long := waitForNextCycle_le 0 0 spent ticks nominal wait
      refine ⟨collected, ?_⟩
      rw [rest, wait, Option.getD_some]
      linarith
  | failed collection metrics broadcast pause =>
      obtain ⟨collected, sent, paused⟩ := valid
      refine ⟨collected, ?_⟩
      have positive : (0 : Seconds) ≤ failurePauseSeconds := by decide +kernel
      rw [rest]
      linarith

/-- A reading carries the clock at the end of its collection. -/
theorem reading_timestamp (clock : Seconds) (cycle : Cycle) (metrics : SystemMetrics)
    (made : cycle.reading clock = some metrics) :
    metrics.timestamp = clock + cycle.collection := by
  cases cycle with
  | completed collection source broadcast ticks =>
      rw [reading, Option.some.injEq] at made
      rw [← made]
      rfl
  | failed collection source broadcast pause =>
      rw [reading, Option.map_eq_some_iff] at made
      obtain ⟨_, _, same⟩ := made
      rw [← same]
      rfl

end Cycle

/-- The readings of a run are stamped in order, no later than its clock. -/
theorem collectMetricsLoop_ordered (config : DetectorConfig) (start : Seconds)
    (cycles : List Cycle) (valid : ∀ cycle ∈ cycles, cycle.Valid) :
    let state := collectMetricsLoop config start cycles
    (state.observed.map SystemMetrics.timestamp).Pairwise (fun later former => former ≤ later) ∧
      ∀ metrics ∈ state.observed, metrics.timestamp ≤ state.clock := by
  induction cycles with
  | nil => exact ⟨List.Pairwise.nil, by simp [collectMetricsLoop]⟩
  | cons cycle earlier ih =>
      have before := ih fun other member => valid other (List.mem_cons_of_mem _ member)
      have taken := Cycle.Valid.nonneg cycle (valid cycle List.mem_cons_self)
      dsimp only at before ⊢
      rw [show collectMetricsLoop config start (cycle :: earlier) =
        CollectionLoop.pass config (collectMetricsLoop config start earlier) cycle from rfl]
      generalize collectMetricsLoop config start earlier = state at before ⊢
      unfold CollectionLoop.pass
      dsimp only
      split
      · refine ⟨before.1, ?_⟩
        intro metrics member
        have bound := before.2 metrics member
        dsimp only
        linarith
      · rename_i metrics made
        have stamp := Cycle.reading_timestamp state.clock cycle metrics made
        dsimp only
        constructor
        · rw [List.map_cons, List.pairwise_cons]
          refine ⟨?_, before.1⟩
          intro former member
          obtain ⟨reading, inside, same⟩ := List.mem_map.mp member
          have bound := before.2 reading inside
          linarith
        · intro reading member
          rw [List.mem_cons] at member
          rcases member with newest | inside
          · rw [newest]
            linarith
          · have bound := before.2 reading inside
            linarith

end OperationsConsole
