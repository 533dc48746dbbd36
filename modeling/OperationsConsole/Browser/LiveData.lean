/-
This file defines what the Overview reads, and how `dashboard.js` keeps the readings of a queue.
Every kept item records the session in which its request was sent.
-/

import OperationsConsole.Session.Gate

namespace OperationsConsole.Browser

open Library

/-- An item keeps the number of the session in which the browser sent its request. -/
structure Sent (α : Type) where
  period : Nat
  value : α
  deriving DecidableEq

/-- A request is refused with the session, it fails, or it succeeds with a value. -/
inductive Answer (α : Type) where
  | refused
  | failed (error : String)
  | ok (value : α)

structure TopologyQueue where
  name : String
  entity : String
  deadLetterQueue : String
  deriving DecidableEq

structure TopologyConsumer where
  name : String
  queues : List TopologyQueue
  deriving DecidableEq

structure TopologyPipeline where
  id : String
  consumers : List TopologyConsumer
  deriving DecidableEq

structure Topology where
  pipelines : List TopologyPipeline
  deriving DecidableEq

/-- The live queues of a pipeline are its work queues, each with its dead-letter queue. -/
def TopologyPipeline.queueNames (pipeline : TopologyPipeline) : List String :=
  pipeline.consumers.flatMap fun consumer =>
    consumer.queues.flatMap fun queue => [queue.name, queue.deadLetterQueue]

structure Sample where
  time : Seconds
  reading : QueueInfo
  deriving DecidableEq

def trendSeconds : Seconds := 300

def gapSeconds : Seconds := 30

/-- The shift drops the oldest samples while the next one is at or before the start. -/
def shiftBefore (start : Seconds) : List (Sent Sample) → List (Sent Sample)
  | first :: second :: rest =>
      if second.value.time ≤ start then shiftBefore start (second :: rest)
      else first :: second :: rest
  | samples => samples

/-- The history of a queue takes a sample that is not older than its newest one. -/
def recordSample (samples : List (Sent Sample)) (sample : Sent Sample) : List (Sent Sample) :=
  let start := sample.value.time - trendSeconds
  match samples.getLast? with
  | none => shiftBefore start [sample]
  | some last =>
      if sample.value.time < last.value.time then samples
      else if sample.value.time = last.value.time then
        shiftBefore start (samples.dropLast ++ [sample])
      else if gapSeconds < sample.value.time - last.value.time then shiftBefore start [sample]
      else shiftBefore start (samples ++ [sample])

abbrev History := Dict String (List (Sent Sample))

/-- A queue that the reading lacks has no history, and neither has a pipeline without a scrape. -/
def updateQueues (pipeline : TopologyPipeline) (reading : Sent PipelineMetrics) (time : Seconds)
    (history : History) : History :=
  pipeline.queueNames.foldl (fun history name =>
    match reading.value.queues.reverse.find? fun queue => queue.name = name with
    | none => history.erase name
    | some queue =>
        if reading.value.queuesAvailable then
          history.set name (recordSample ((history.get? name).getD [])
            ⟨reading.period, time, queue⟩)
        else history.erase name) history

/-- Each pipeline of a reading that the topology has updates the history of its queues. -/
def updatePipelines (topology : Topology) (reading : Sent SystemMetrics) (history : History) :
    History :=
  reading.value.pipelines.items.foldl (fun history item =>
    match topology.pipelines.find? fun pipeline => pipeline.id = item.1 with
    | none => history
    | some pipeline =>
        updateQueues pipeline ⟨reading.period, item.2⟩ reading.value.timestamp history) history

/-- A run of the extraction history. A field of the answer that is missing or empty is absent, and
so is a start that is not a date. -/
structure Run where
  id : String
  source : Option String := none
  status : String
  startedAt : Option String
  completedAt : Option String := none
  deriving DecidableEq

def Run.isRunning (run : Run) : Bool := run.status = "running" ∧ run.completedAt = none

def Run.pipelineOf (run : Run) : String := run.source.getD "discogs"

/-- The first started run of each pipeline is its newest one. -/
def latestRuns (extractions : List Run) : Dict String Run :=
  extractions.foldl (fun runs run =>
    if run.startedAt = none then runs else runs.setDefault run.pipelineOf run) Dict.empty

/-- The key of a progress answer names the run with its start and its end. -/
structure ProgressKey where
  id : String
  startedAt : Option String
  endedAt : Option String
  deriving DecidableEq

def Run.progressKey (run : Run) : ProgressKey :=
  ⟨run.id, run.startedAt, if run.isRunning then none else run.completedAt⟩

/-- The page tests whether a progress answer holds anything. -/
def truthy : Session.Json → Bool
  | .null => false
  | .bool value => value
  | .number value => value ≠ 0
  | .string value => value ≠ ""
  | _ => true

structure ProgressEntry where
  key : ProgressKey
  data : Option Session.Json
  error : Option String

structure Alerts where
  configured : Bool
  available : Bool
  names : List String
  note : Option String := none
  deriving DecidableEq

/-- A base is absent when the console serves none. -/
structure LinkBases where
  grafana : Option String := none
  traces : Option String := none
  deriving DecidableEq

end OperationsConsole.Browser
