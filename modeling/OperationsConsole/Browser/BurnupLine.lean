/-
This file draws the burn-up line from the answer of the server about a run.
The line of a consumer is complete, never negative and never falls, across every reset. Two times
within one millisecond are returned as the same number.
-/

import OperationsConsole.Browser.Burnup
import OperationsConsole.Progress.LoadedPoints

namespace OperationsConsole.Browser.Burnup

open Library OperationsConsole.Progress

/-- A time is rounded to its microsecond. -/
def stampOf (time : Seconds) : ℤ := roundHalfEven (time * 1000000)

/-- The server answers the stamps of the points with their counts. -/
def trackOf (load : QueueLoad) : List (ℤ × ℤ) :=
  load.points.map fun point => (stampOf point.1, point.2)

theorem stampOf_mono (earlier later : Seconds) (ordered : earlier ≤ later) :
    stampOf earlier ≤ stampOf later :=
  roundHalfEven_mono _ _ (mul_le_mul_of_nonneg_right ordered (by decide))

/-- The track of a loading queue rises when its stamps are distinct. -/
theorem trackOf_rising (load : QueueLoad) (loading : Loading load.points)
    (distinct : ((trackOf load).map Prod.fst).Nodup) : Rising (trackOf load) := by
  have follows : (trackOf load).Pairwise fun earlier later =>
      earlier.1 ≤ later.1 ∧ earlier.2 ≤ later.2 := by
    apply List.pairwise_map.mpr
    exact loading.1.imp fun both => ⟨stampOf_mono _ _ both.1, both.2⟩
  exact (follows.and (List.pairwise_map.mp distinct)).imp fun all =>
    ⟨lt_of_le_of_ne all.1.1 all.2, all.1.2⟩

/-- The line over queues of a run, such as those of one consumer, is a loaded line. -/
theorem burnupSeries_shapeProgress (pipeline : RunPipeline) (start finish : Seconds)
    (results : Results) (counted : NonnegativeSamples results.ackedRange)
    (countedEnd : NonnegativeSamples results.ackedEnd) (loads : List QueueLoad)
    (own : ∀ load ∈ loads, load ∈ (shapeProgress pipeline start finish results).queues)
    (distinct : ∀ load ∈ loads, ((trackOf load).map Prod.fst).Nodup) (cells : List Cell)
    (answered : (loads.map trackOf).mapM answer = some cells) (total : ℚ) (positive : 0 < total) :
    LoadedLine (loads.map trackOf) total (burnupSeries cells total) := by
  have loading : ∀ load ∈ loads, Loading load.points := fun load member =>
    shapeProgress_loading start finish results pipeline counted countedEnd load (own load member)
  apply burnupSeries_loadedLine (loads.map trackOf) total positive cells answered
  · intro track member
    obtain ⟨load, inside, rfl⟩ := List.mem_map.mp member
    exact trackOf_rising load (loading load inside) (distinct load inside)
  · intro track member entry within
    obtain ⟨load, inside, rfl⟩ := List.mem_map.mp member
    obtain ⟨point, listed, rfl⟩ := List.mem_map.mp within
    exact (loading load inside).2 point listed

section Restart

/-- A series of a queue with these samples. -/
def countedSeries (queue : String) (value : ℚ) (points : List Progress.Point) : Series where
  metric := Dict.empty.set "queue" queue
  value := .finite value
  values := points.map fun point => (point.time, .finite point.value)

theorem countedSeries_nonneg (queue : String) (value : ℚ) (points : List Progress.Point)
    (last : 0 ≤ value) (counted : ∀ point ∈ points, 0 ≤ point.value) :
    (∀ number, (countedSeries queue value points).value.number = some number → 0 ≤ number) ∧
      ∀ point ∈ (countedSeries queue value points).points, 0 ≤ point.value := by
  constructor
  · intro number same
    rw [← Option.some.inj same]
    exact last
  · intro point inside
    obtain ⟨other, listed, same⟩ := List.mem_map.mp ((Series.mem_points_iff _ point).mp inside)
    rw [← Raw.finite.inj (congrArg Prod.snd same)]
    exact counted other listed

/-- The counter of the first queue starts again between its two samples. -/
def restartSeries : List Series :=
  [countedSeries "groovemap-graph-artists" 5 [⟨1767225615, 14⟩, ⟨1767225630, 3⟩],
    countedSeries "groovemap-graph-labels" 8 [⟨1767225630, 2⟩]]

theorem restartSeries_nonneg : NonnegativeSamples restartSeries := by
  unfold NonnegativeSamples restartSeries
  rw [List.forall_mem_cons, List.forall_mem_singleton]
  constructor
  · exact countedSeries_nonneg _ _ _ (by decide) (by decide +kernel)
  · exact countedSeries_nonneg _ _ _ (by decide) (by decide +kernel)

def restartResults : Results where
  ackedStart := [countedSeries "groovemap-graph-artists" 10 [],
    countedSeries "groovemap-graph-labels" 0 []]
  ackedEnd := restartSeries
  ackedRange := restartSeries
  recordsStart := []
  recordsEnd := []
  recordsRange := []
  fileProgress := []
  fileProgressStart := []
  fileProgressRange := []

def restartPipeline : RunPipeline where
  id := "graph"
  consumers := [⟨"graph", [⟨"groovemap-graph-artists", "artists", "groovemap-graph-artists.dlq"⟩,
    ⟨"groovemap-graph-labels", "labels", "groovemap-graph-labels.dlq"⟩]⟩]
  entityTypes := ["artists", "labels"]

def restartLoads : List QueueLoad :=
  (shapeProgress restartPipeline 1767225600 1767225640.25 restartResults).queues

def restartCells : List Cell :=
  [⟨[("2026-01-01T00:00:15+00:00", 4), ("2026-01-01T00:00:30+00:00", 7),
      ("2026-01-01T00:00:40.250000+00:00", 9)]⟩,
    ⟨[("2026-01-01T00:00:30+00:00", 2), ("2026-01-01T00:00:40.250000+00:00", 8)]⟩]

/-- The line of a run with a restart is a loaded line. -/
theorem burnupSeries_restart :
    LoadedLine (restartLoads.map trackOf) 40 (burnupSeries restartCells 40) :=
  burnupSeries_shapeProgress restartPipeline 1767225600 1767225640.25 restartResults
    restartSeries_nonneg restartSeries_nonneg restartLoads (fun _ member => member)
    (by decide +kernel) restartCells (by decide +kernel) 40 (by decide)

example : burnupSeries restartCells 40 =
    [⟨some 1767225630000, 9 / 40⟩, ⟨some 1767225640250, 17 / 40⟩] := by
  decide +kernel

/-- The run ends within the millisecond of its last samples. -/
def closeLoads : List QueueLoad :=
  (shapeProgress restartPipeline 1767225600 1767225630.0004 restartResults).queues

def closeCells : List Cell :=
  [⟨[("2026-01-01T00:00:15+00:00", 4), ("2026-01-01T00:00:30+00:00", 7),
      ("2026-01-01T00:00:30.000400+00:00", 9)]⟩,
    ⟨[("2026-01-01T00:00:30+00:00", 2), ("2026-01-01T00:00:30.000400+00:00", 8)]⟩]

/-- The end of the run is returned as the time of its last samples. -/
theorem burnupSeries_twice :
    (closeLoads.map trackOf).mapM answer = some closeCells ∧
      (∀ load ∈ closeLoads, ((trackOf load).map Prod.fst).Nodup) ∧
      burnupSeries closeCells 40 =
        [⟨some 1767225630000, 9 / 40⟩, ⟨some 1767225630000, 17 / 40⟩] ∧
      ¬ ((burnupSeries closeCells 40).map Point.ms).Nodup := by
  refine ⟨by decide +kernel, by decide +kernel, by decide +kernel, by decide +kernel⟩

end Restart

end OperationsConsole.Browser.Burnup
