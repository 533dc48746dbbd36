/-
This file embeds the gauges of the graph store in `telemetry.py`. The callbacks of an export cycle
share one snapshot, which is refreshed when it has outlived its lifetime.
-/

import Mathlib.Algebra.Order.Field.Rat
import OperationsConsole.Library.Dict
import OperationsConsole.Library.Doubles
import OperationsConsole.Library.Loop

namespace OperationsConsole.Telemetry

open Library

section Interval

/-- The reader of numbers raises a ValueError for other texts. -/
def exportIntervalMs (float : String → Option Double) (setting : Option String) : Double :=
  let intervalMs := (float (setting.getD "")).getD (.finite 60000)
  if intervalMs.le (.finite 0) then .finite 60000 else intervalMs

/-- Only a finite number is changed by the division. -/
def divided (divisor : ℚ) : Double → Double
  | .finite value => .finite (value / divisor)
  | other => other

def exportIntervalS (float : String → Option Double) (setting : Option String) : Double :=
  divided 1000 (exportIntervalMs float setting)

/-- The language takes the second number only if it is greater than the first. -/
def refreshTtlS (float : String → Option Double) (setting : Option String) : Double :=
  let half := divided 2 (exportIntervalS float setting)
  if (Double.finite 1).lt half then half else .finite 1

end Interval

section Snapshots

/-- A snapshot that is not up carries no numbers. -/
structure Neo4jSnapshot where
  up : Bool
  nodes : Dict String ℤ := .empty
  relationships : Dict String ℤ := .empty
  transactionsActive : Option ℤ := none
  storeSizes : Dict String ℤ := .empty

def neo4jDown : Neo4jSnapshot := { up := false }

/-- A refresh is refused by a closed loop, answers, fails, or is cut off by its budget. -/
inductive Outcome where
  | refused
  | answered (snapshot : Neo4jSnapshot)
  | failed
  | timedOut

/-- This is the budget of a refresh in seconds. -/
def refreshBudgetS : ℚ := 10

structure Refresh where
  outcome : Outcome
  duration : ℚ
  nonnegative : 0 ≤ duration
  budgeted : duration ≤ refreshBudgetS

/-- This is `_refresh`, which never raises. -/
def Refresh.snapshot (refresh : Refresh) : Neo4jSnapshot :=
  match refresh.outcome with
  | .answered snapshot => snapshot
  | .refused => neo4jDown
  | .failed => neo4jDown
  | .timedOut => neo4jDown

structure GaugeSource where
  snapshot : Option Neo4jSnapshot
  refreshedAt : ℚ

def GaugeSource.new : GaugeSource := ⟨none, 0⟩

def GaugeSource.renew (now : ℚ) (refresh : Refresh) : GaugeSource × Neo4jSnapshot × Bool :=
  (⟨some refresh.snapshot, now⟩, refresh.snapshot, true)

/-- This is `snapshot`, where the refresh is the one that would happen now. The truth value tells
whether it happened. -/
def GaugeSource.read (ttl : Double) (now : ℚ) (refresh : Refresh) (source : GaugeSource) :
    GaugeSource × Neo4jSnapshot × Bool :=
  match source.snapshot with
  | some held =>
      if (Double.finite (now - source.refreshedAt)).lt ttl then (source, held, false)
      else renew now refresh
  | none => renew now refresh

end Snapshots

section Cycles

inductive Gauge where
  | up
  | nodes
  | relationships
  | transactionsActive
  | storeSizes
  deriving DecidableEq

/-- An observation has a number, and the name and the value of its label. -/
structure Observation where
  value : ℤ
  label : Option (String × String)

def labelled (name : String) (counts : Dict String ℤ) : List Observation :=
  counts.items.map fun item => ⟨item.2, some (name, item.1)⟩

/-- Each gauge exports its part of a snapshot. -/
def Gauge.project (snapshot : Neo4jSnapshot) : Gauge → List Observation
  | .up => [⟨if snapshot.up then 1 else 0, none⟩]
  | .nodes => labelled "label" snapshot.nodes
  | .relationships => labelled "type" snapshot.relationships
  | .transactionsActive => (snapshot.transactionsActive.map fun count => ⟨count, none⟩).toList
  | .storeSizes => labelled "store" snapshot.storeSizes

/-- A callback observes a snapshot, and may cause its refresh. -/
structure Reading where
  gauge : Gauge
  snapshot : Neo4jSnapshot
  refreshed : Bool

def Reading.observations (reading : Reading) : List Observation :=
  reading.gauge.project reading.snapshot

/-- A callback runs a pause after the one before it, and a refresh in it would go like this. -/
structure Callback where
  gauge : Gauge
  pause : ℚ
  nonnegative : 0 ≤ pause
  refresh : Refresh

/-- The callbacks run on one thread, whose clock goes on during a refresh. -/
structure Collecting where
  source : GaugeSource
  clock : ℚ

def observe (ttl : Double) (collecting : Collecting) (callback : Callback) :
    Collecting × Reading :=
  let now := collecting.clock + callback.pause
  let read := collecting.source.read ttl now callback.refresh
  (⟨read.1, if read.2.2 then now + callback.refresh.duration else now⟩,
    ⟨callback.gauge, read.2.1, read.2.2⟩)

/-- A cycle has a pause before each callback but the first. -/
structure Cycle where
  refreshes : Gauge → Refresh
  pauses : Gauge → ℚ
  nonnegative : ∀ gauge, 0 ≤ pauses gauge

/-- The later callbacks of a cycle. -/
def Cycle.others (cycle : Cycle) : List Callback :=
  [Gauge.nodes, .relationships, .transactionsActive, .storeSizes].map fun gauge =>
    ⟨gauge, cycle.pauses gauge, cycle.nonnegative gauge, cycle.refreshes gauge⟩

/-- The five callbacks run in the order of their registration. -/
def Cycle.callbacks (cycle : Cycle) : List Callback :=
  ⟨.up, 0, le_rfl, cycle.refreshes .up⟩ :: cycle.others

/-- The next cycle starts one interval after this one. -/
def exportCycle (ttl : Double) (interval : ℚ) (state : GaugeSource × ℚ) (cycle : Cycle) :
    (GaugeSource × ℚ) × List Reading :=
  let collected := loop (observe ttl) ⟨state.1, state.2⟩ cycle.callbacks
  ((collected.1.source, state.2 + interval), collected.2)

/-- A run of cycles begins with the registration of the gauges. -/
def exportRun (ttl : Double) (interval start : ℚ) (cycles : List Cycle) : List (List Reading) :=
  (loop (exportCycle ttl interval) (GaugeSource.new, start) cycles).2

end Cycles

end OperationsConsole.Telemetry
