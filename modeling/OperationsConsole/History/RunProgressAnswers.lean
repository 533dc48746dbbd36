/-
This file embeds how `progress.py` reads and shapes the answers of VictoriaMetrics for a run.
The arithmetic is that of floating-point numbers, and every operation may raise an exception.
-/

import OperationsConsole.History.HealthHistory
import OperationsConsole.Progress.ShapeProgress

namespace OperationsConsole.History

open Library
open Progress (RunPipeline)

/-- The increase of a counter until a time may be out of range. -/
structure TimedIncrease where
  time : Double
  total : Double
  deriving DecidableEq

section Reading

variable (python : Python) (label : String)

/-- A value is kept only if it is a number and its label is present. -/
def instantStep (values : Dict Label ℚ) (series : Json) : Except Raised (Dict Label ℚ) := do
  let key ← keyOf label series
  let value ← instantValue python series
  match key, value with
  | .null, _ => return values
  | _, none => return values
  | key, some value => return values.set (← key.hash) value

def instantValues (result : List Json) : Except Raised (Dict Label ℚ) :=
  result.foldlM (instantStep python label) .empty

/-- Only the time of a finite number is read. -/
def timedValue (item : Json × ℕ) : Except Raised (Option TimedValue) := do
  let (ts, raw) ← item.1.unpack
  match ← python.number raw with
  | none => return none
  | some value => return some ⟨← python.instant (0, item.2) ts, value⟩

/-- Two samples compare by their times first and by their values second. -/
def TimedValue.Before (first second : TimedValue) : Prop :=
  ¬(second.time.lt first.time = true ∨ second.time = first.time ∧ second.value < first.value)

instance : DecidableRel TimedValue.Before := fun _ _ => inferInstanceAs (Decidable (¬(_ ∨ _ ∧ _)))

/-- A sort arranges the samples, and times that are numbers come in their order. -/
def sortSamples (points : List TimedValue) : List TimedValue :=
  if points.any fun point => point.time = .nan then python.arrangeValues points
  else points.insertionSort TimedValue.Before

def timedValues (series : Json) : Except Raised (List TimedValue) := do
  let items ← (← series.get "values" (.list [])).iterate
  let points ← items.zipIdx.mapM (timedValue python)
  return sortSamples python (points.filterMap id)

def rangeStep (values : Dict Label (List TimedValue)) (series : Json) :
    Except Raised (Dict Label (List TimedValue)) := do
  match ← keyOf label series with
  | .null => return values
  | key =>
      let points ← timedValues python series
      return values.set (← key.hash) points

def rangeValues (result : List Json) : Except Raised (Dict Label (List TimedValue)) :=
  result.foldlM (rangeStep python label) .empty

end Reading

section Counting

variable (python : Python)

/-- A sample below the one before it is a reset, so its whole value is new. -/
def growth (previous value : ℚ) : Double :=
  if previous ≤ value then Double.sub python.nearest (.finite value) (.finite previous)
  else .finite value

def increasesFrom (start : Double) (previous : ℚ) (total : Double) :
    List TimedValue → List TimedIncrease
  | [] => []
  | point :: rest =>
      if point.time.le start then increasesFrom start previous total rest
      else
        let total := Double.add python.nearest total (growth python previous point.value)
        ⟨point.time, total⟩ :: increasesFrom start point.value total rest

def counterIncrease (baseline : Option ℚ) (points : List TimedValue) (start : Double) :
    Option (List TimedIncrease) :=
  baseline.map fun previous => increasesFrom python start previous (.finite 0) points

def gaugeMoved (initial : Option ℚ) (points : List TimedValue) (start : Double) : Bool :=
  let inRun := points.filter fun point => start.lt point.time
  match initial with
  | none => !inRun.isEmpty
  | some initial => inRun.any fun point => point.value ≠ initial

def withEnd (points : List TimedValue) (finish : Double) (value : Option ℚ) : List TimedValue :=
  match value with
  | none => points
  | some value =>
      if points.getLast?.any fun point => finish.le point.time then points
      else points ++ [⟨⟨finish, none⟩, value⟩]

/-- No expected number is told before both numbers are known. -/
def expectedRecords (extracted : Option ℤ) (fileProgress : Option ℚ) : Except Raised (Option ℤ) :=
  match extracted, fileProgress with
  | some extracted, some fileProgress =>
      if extracted ≤ 0 ∨ fileProgress ≤ 0 then .ok none
      else do
        let records ← python.toFloat (.int extracted)
        let expected ← records.div python.nearest (.finite (min fileProgress 1))
        return some (← roundDouble expected)
  | _, _ => .ok none

/-- The last increase is rounded, and no increase counts as nothing. -/
def lastIncrease (increase : Option (List TimedIncrease)) : Except Raised (Option ℤ) :=
  match increase with
  | none => .ok none
  | some increase => match increase.getLast? with
      | none => .ok (some 0)
      | some last => some <$> roundDouble last.total

end Counting

/-- The nine results of a run, as the values of their labels. -/
structure RunReadings where
  ackedStart : Dict Label ℚ
  ackedEnd : Dict Label ℚ
  ackedRange : Dict Label (List TimedValue)
  recordsStart : Dict Label ℚ
  recordsEnd : Dict Label ℚ
  recordsRange : Dict Label (List TimedValue)
  fileProgress : Dict Label ℚ
  fileProgressStart : Dict Label ℚ
  fileProgressRange : Dict Label (List TimedValue)

/-- The nine queries have these names. -/
def runFields : List String :=
  ["acked_start", "acked_end", "acked_range", "records_start", "records_end", "records_range",
    "file_progress", "file_progress_start", "file_progress_range"]

structure EntityLoad where
  entity : String
  extracted : Option ℤ
  fileProgress : Option ℚ
  expected : Option ℤ
  waitingForCheckpoint : Bool
  deriving DecidableEq

structure QueueLoad where
  queue : String
  consumer : String
  entity : String
  baseline : Option ℚ
  loaded : Option ℤ
  points : List (String × ℤ)
  deriving DecidableEq

structure RunLoad where
  pipeline : String
  start : String
  finish : String
  entities : List EntityLoad
  queues : List QueueLoad
  deriving DecidableEq

section Shaping

variable (python : Python)

def readRun (results : List (String × List Json)) : Except Raised RunReadings := do
  let ackedStart ← instantValues python "queue" (rowsNamed results "acked_start")
  let ackedEnd ← instantValues python "queue" (rowsNamed results "acked_end")
  let ackedRange ← rangeValues python "queue" (rowsNamed results "acked_range")
  let recordsStart ← instantValues python "entity" (rowsNamed results "records_start")
  let recordsEnd ← instantValues python "entity" (rowsNamed results "records_end")
  let recordsRange ← rangeValues python "entity" (rowsNamed results "records_range")
  let fileProgress ← instantValues python "entity" (rowsNamed results "file_progress")
  let fileProgressStart ← instantValues python "entity" (rowsNamed results "file_progress_start")
  let fileProgressRange ← rangeValues python "entity" (rowsNamed results "file_progress_range")
  return ⟨ackedStart, ackedEnd, ackedRange, recordsStart, recordsEnd, recordsRange, fileProgress,
    fileProgressStart, fileProgressRange⟩

/-- The shaping asks the dictionaries for the names of the entities and of the queues. -/
structure RunNumbers where
  held : Bool
  ackedStart : String → Option ℚ
  ackedEnd : String → Option ℚ
  ackedRange : String → List TimedValue
  recordsStart : String → Option ℚ
  recordsEnd : String → Option ℚ
  recordsRange : String → List TimedValue
  fileProgress : String → Option ℚ
  fileProgressStart : String → Option ℚ
  fileProgressRange : String → List TimedValue

def valueOf (values : Dict Label ℚ) (name : String) : Option ℚ := values.get? (.text (literal name))

def pointsOf (values : Dict Label (List TimedValue)) (name : String) : List TimedValue :=
  (values.get? (.text (literal name))).getD []

/-- VictoriaMetrics held data at the start when it shows the baseline of some queue. -/
def RunReadings.numbers (readings : RunReadings) : RunNumbers where
  held := !readings.ackedStart.items.isEmpty
  ackedStart := valueOf readings.ackedStart
  ackedEnd := valueOf readings.ackedEnd
  ackedRange := pointsOf readings.ackedRange
  recordsStart := valueOf readings.recordsStart
  recordsEnd := valueOf readings.recordsEnd
  recordsRange := pointsOf readings.recordsRange
  fileProgress := valueOf readings.fileProgress
  fileProgressStart := valueOf readings.fileProgressStart
  fileProgressRange := pointsOf readings.fileProgressRange

variable (start finish : Double) (numbers : RunNumbers)

/-- A records series that is missing at the start had counted nothing yet. -/
def recordsBaseline (entity : String) : Option ℚ :=
  if numbers.held then some ((numbers.recordsStart entity).getD 0) else none

def recordsIncrease (entity : String) : Option (List TimedIncrease) :=
  counterIncrease python (recordsBaseline numbers entity)
    (withEnd (numbers.recordsRange entity) finish (numbers.recordsEnd entity)) start

/-- A ratio that the gauge has not moved to inside the run is the one of the previous run. -/
def waitingForCheckpoint (entity : String) : Bool :=
  let ratio := numbers.fileProgress entity
  ratio.isSome && !gaugeMoved (numbers.fileProgressStart entity)
    (withEnd (numbers.fileProgressRange entity) finish ratio) start

def trustedRatio (entity : String) : Option ℚ :=
  if waitingForCheckpoint start finish numbers entity then none else numbers.fileProgress entity

def shapeEntity (entity : String) : Except Raised EntityLoad := do
  let extracted ← lastIncrease (recordsIncrease python start finish numbers entity)
  let ratio := trustedRatio start finish numbers entity
  let expected ← expectedRecords python extracted ratio
  return ⟨entity, extracted, ratio, expected, waitingForCheckpoint start finish numbers entity⟩

def ackedIncrease (queue : String) : Option (List TimedIncrease) :=
  counterIncrease python (numbers.ackedStart queue)
    (withEnd (numbers.ackedRange queue) finish (numbers.ackedEnd queue)) start

def burnupPoint (point : TimedIncrease) : Except Raised (String × ℤ) := do
  let time ← python.iso point.time
  let loaded ← roundDouble point.total
  return (time, loaded)

def shapeLoad (consumer : String) (queue : Browser.TopologyQueue) : Except Raised QueueLoad := do
  let increase := ackedIncrease python start finish numbers queue.name
  let loaded ← lastIncrease increase
  let points ← (increase.getD []).mapM (burnupPoint python)
  return ⟨queue.name, consumer, queue.entity, numbers.ackedStart queue.name, loaded, points⟩

/-- The queues of the consumers of a pipeline. -/
def consumedQueues (pipeline : RunPipeline) : List (String × Browser.TopologyQueue) :=
  pipeline.consumers.flatMap fun consumer => consumer.queues.map fun queue => (consumer.name, queue)

def shapeRun (pipeline : RunPipeline) : Except Raised RunLoad := do
  let entities ← pipeline.entityTypes.mapM (shapeEntity python start finish numbers)
  let queues ← (consumedQueues pipeline).mapM fun consumed =>
    shapeLoad python start finish numbers consumed.1 consumed.2
  return ⟨pipeline.id, ← python.iso start, ← python.iso finish, entities, queues⟩

def shapeProgress (pipeline : RunPipeline) (start finish : Double)
    (results : List (String × List Json)) : Except Raised RunLoad := do
  let readings ← readRun python results
  shapeRun python start finish readings.numbers pipeline

end Shaping

/-- A run that ended has a finish, and the times are those of the clock in seconds. -/
structure RunRequest where
  pipelineId : String
  start : ℚ
  finish : Option ℚ

/-- The route rejects a request with a status and a detail before it asks VictoriaMetrics. -/
inductive RunAnswer where
  | rejected (status : Nat) (detail : String)
  | asked (answer : HistoryAnswer RunLoad)

/-- A run has at most 90 days. -/
def maxRun : ℚ := 90 * 86400

/-- The finish is no later than now. -/
def RunRequest.ending (request : RunRequest) (now : ℚ) : ℚ := min (request.finish.getD now) now

def runProgress (python : Python) (pipelines : List RunPipeline) (request : RunRequest) (now : ℚ)
    (gathered : Except Failure (List (List Json))) : Except Raised RunAnswer :=
  match pipelines.find? fun pipeline => pipeline.id = request.pipelineId with
  | none => .ok (.rejected 404 "unknown pipeline")
  | some pipeline =>
      let finish := request.ending now
      if finish ≤ request.start then
        .ok (.rejected 400 "start must be before end and in the past")
      else if maxRun < finish - request.start then
        .ok (.rejected 400 "run is longer than the retained history")
      else match gathered with
        | .error (.historyUnavailable reason) => .ok (.asked (.unavailable reason))
        | .error (.raised exception) => .error exception
        | .ok values => do
            let body ← shapeProgress python pipeline (python.nearest request.start)
              (python.nearest finish) (runFields.zip values)
            return .asked (.shaped body)

end OperationsConsole.History
