/-
This file embeds the tiles of the queue trends in `admin.js`, which show a total and a sparkline.
The sparkline adds the queues point by point, by the positions of the points.
-/

import OperationsConsole.History.QueueRegrouping

namespace OperationsConsole.Browser.QueueSparklines

open Library OperationsConsole.History

/-- A missing value and a value that is null count zero. -/
def reading (field : String) (point : DataPoint) : ℚ := ((point.values.lookup field).join).getD 0

/-- A queue with fewer points adds nothing. -/
def addPoint (field : String) (sum : ℚ) : Option DataPoint → ℚ
  | some point => sum + reading field point
  | none => sum

/-- This is `_aggregateSparkline`. -/
def aggregateSparkline (field : String) (queues : List QueueSeries) : List ℚ :=
  if queues = [] then []
  else
    let maxLen := ((queues.map fun queue => queue.dataPoints.length).max?).getD 0
    if maxLen = 0 then []
    else (List.range maxLen).map fun i =>
      queues.foldl (fun sum queue => addPoint field sum queue.dataPoints[i]?) 0

/-- This is the value of the last point of a queue. -/
def latest (field : String) (queue : QueueSeries) : ℚ :=
  match queue.dataPoints.getLast? with
  | some point => reading field point
  | none => 0

def latestTotal (field : String) (queues : List QueueSeries) : ℚ :=
  queues.foldl (fun sum queue => sum + latest field queue) 0

structure Tile where
  label : String
  value : ℚ
  spark : List ℚ

/-- This tile of `renderQueueSummaryTiles` has a sparkline. -/
def sparkTile (label : String) (queues : List QueueSeries) : Tile where
  label := label
  value := latestTotal "messages_ready" queues
  spark := aggregateSparkline "messages_ready" queues

def depthTile (history : QueueHistory) : Tile := sparkTile "Total Queue Depth" history.queues

def dlqTile (history : QueueHistory) : Tile := sparkTile "DLQ Messages" history.dlqSummary

/-- The points of a queue are at increasing times. -/
structure DatedQueue where
  series : QueueSeries
  times : List ℚ
  ordered : times.Pairwise (· < ·)
  dated : times.length = series.dataPoints.length

/-- The values of a field of a queue with their times. -/
def DatedQueue.track (field : String) (queue : DatedQueue) : List (ℚ × ℚ) :=
  queue.times.zip (queue.series.dataPoints.map (reading field))

section Shaped

variable (python : Python) (fields : List String) (results : List (String × List Json))

/-- The times of a queue are those of its samples, and every point shows the time at its place. -/
structure TimedBySamples (queue : DatedQueue) : Prop where
  sampled : ∀ time, (∃ value ∈ queue.times, time = .finite value) ↔
    ∃ field raw, HasSample python results field queue.series.queueName time raw
  points : List.Forall₂ (PointShows python fields results queue.series.queueName) queue.times
    queue.series.dataPoints

/-- Every list of shaped queues can be dated by the samples. -/
theorem exists_timedBySamples (queues : List QueueSeries)
    (shown : ∀ queue ∈ queues, QueueShows python fields results queue) :
    ∃ dated : List DatedQueue, dated.map DatedQueue.series = queues ∧
      ∀ queue ∈ dated, TimedBySamples python fields results queue := by
  induction queues with
  | nil => exact ⟨[], rfl, fun queue member => absurd member List.not_mem_nil⟩
  | cons queue queues ih =>
      obtain ⟨times, ordered, sampled, points⟩ := shown queue List.mem_cons_self
      obtain ⟨dated, same, timed⟩ := ih fun other member =>
        shown other (List.mem_cons_of_mem queue member)
      let first : DatedQueue := ⟨queue, times, ordered, points.length_eq⟩
      have firstTimed : TimedBySamples python fields results first := ⟨sampled, points⟩
      exact ⟨first :: dated, congrArg (queue :: ·) same, List.forall_mem_cons.mpr ⟨firstTimed, timed⟩⟩

/-- The queues that the server shapes have their points at the times of their samples. -/
theorem datedQueues_of_regrouped (queues dlqs : List QueueSeries)
    (regrouped : Regrouped python fields results queues dlqs) :
    ∃ live dead : List DatedQueue,
      live.map DatedQueue.series = queues ∧ dead.map DatedQueue.series = dlqs ∧
        ∀ queue ∈ live ++ dead, TimedBySamples python fields results queue := by
  obtain ⟨live, sameLive, timedLive⟩ := exists_timedBySamples python fields results queues
    fun queue member => regrouped.points queue (List.mem_append_left _ member)
  obtain ⟨dead, sameDead, timedDead⟩ := exists_timedBySamples python fields results dlqs
    fun queue member => regrouped.points queue (List.mem_append_right _ member)
  exact ⟨live, dead, sameLive, sameDead, List.forall_mem_append.mpr ⟨timedLive, timedDead⟩⟩

end Shaped

end OperationsConsole.Browser.QueueSparklines
