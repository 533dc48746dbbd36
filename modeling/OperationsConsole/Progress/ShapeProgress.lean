/-
This file embeds `shape_progress` of `dashboard/progress.py` and the helpers that read the results.
A number that cannot be derived from the nine query results is absent, and it is never a guess.
-/

import Mathlib.Data.List.Induction
import Mathlib.Data.List.Sort
import OperationsConsole.Browser.LiveData
import OperationsConsole.Events.Detector
import OperationsConsole.Progress.CounterIncrease

namespace OperationsConsole.Progress

open Library

/-- A sample is a number, a number that is not finite, or a value that is no number. -/
inductive Raw where
  | finite (value : ℚ)
  | notFinite
  | unreadable
  deriving DecidableEq

/-- This is `_number`. -/
def Raw.number : Raw → Option ℚ
  | finite value => some value
  | notFinite => none
  | unreadable => none

/-- A series has its labels, one sample of an instant query, and the samples of a range query. -/
structure Series where
  metric : Dict String String
  value : Raw := .unreadable
  values : List (Seconds × Raw) := []
  deriving DecidableEq

def instantStep (label : String) (values : Dict String ℚ) (series : Series) : Dict String ℚ :=
  match series.metric.get? label, series.value.number with
  | some key, some value => values.set key value
  | _, _ => values

def instantValues (result : List Series) (label : String) : Dict String ℚ :=
  result.foldl (instantStep label) Dict.empty

/-- Two points compare by their times first and by their values second. -/
def Point.Before (first second : Point) : Prop :=
  first.time < second.time ∨ first.time = second.time ∧ first.value ≤ second.value

instance : DecidableRel Point.Before := fun first second =>
  inferInstanceAs (Decidable (first.time < second.time ∨
    first.time = second.time ∧ first.value ≤ second.value))

/-- The points of a series are its finite samples in order. -/
def Series.points (series : Series) : List Point :=
  (series.values.filterMap fun sample => sample.2.number.map fun value => ⟨sample.1, value⟩)
    |>.insertionSort Point.Before

def rangeStep (label : String) (values : Dict String (List Point)) (series : Series) :
    Dict String (List Point) :=
  match series.metric.get? label with
  | some key => values.set key series.points
  | none => values

def rangeValues (result : List Series) (label : String) : Dict String (List Point) :=
  result.foldl (rangeStep label) Dict.empty

def gaugeMoved (initial : Option ℚ) (points : List Point) (start : Seconds) : Bool :=
  match initial with
  | none => !(afterStart start points).isEmpty
  | some initial => (afterStart start points).any fun point => point.value ≠ initial

def expectedRecords (extracted : Option ℤ) (fileProgress : Option ℚ) : Option ℤ :=
  match extracted, fileProgress with
  | some extracted, some fileProgress =>
      if extracted ≤ 0 ∨ fileProgress ≤ 0 then none
      else some (roundHalfEven (extracted / min fileProgress 1))
  | _, _ => none

/-- The range stops a step short, so the instant sample closes it. -/
def withEnd (points : List Point) (finish : Seconds) (value : Option ℚ) : List Point :=
  match value with
  | none => points
  | some value =>
      if points.getLast?.any fun point => finish ≤ point.time then points
      else points ++ [⟨finish, value⟩]

/-- The nine query results of a run. -/
structure Results where
  ackedStart : List Series
  ackedEnd : List Series
  ackedRange : List Series
  recordsStart : List Series
  recordsEnd : List Series
  recordsRange : List Series
  fileProgress : List Series
  fileProgressStart : List Series
  fileProgressRange : List Series

/-- A pipeline of the topology has its entity types beside its consumers. -/
structure RunPipeline extends Browser.TopologyPipeline where
  entityTypes : List String

structure EntityProgress where
  entity : String
  extracted : Option ℤ
  fileProgress : Option ℚ
  expected : Option ℤ
  waitingForCheckpoint : Bool
  deriving DecidableEq

structure QueueLoad where
  queue : String
  consumer : String
  entity : String
  baseline : Option ℚ
  loaded : Option ℤ
  points : List (Seconds × ℤ)
  deriving DecidableEq

structure RunProgress where
  pipeline : String
  start : Seconds
  finish : Seconds
  entities : List EntityProgress
  queues : List QueueLoad
  deriving DecidableEq

/-- The last increase is the number of the run, and no increase counts as nothing. -/
def lastIncrease (increases : List Point) : ℤ :=
  (increases.getLast?.map fun point => roundHalfEven point.value).getD 0

/-- VictoriaMetrics held data at the start when it shows the baseline of some queue. -/
def heldDataAtStart (results : Results) : Bool :=
  !(instantValues results.ackedStart "queue").items.isEmpty

/-- A records series that is missing at the start had counted nothing yet. -/
def recordsBaseline (results : Results) (entity : String) : Option ℚ :=
  if heldDataAtStart results then
    some (((instantValues results.recordsStart "entity").get? entity).getD 0)
  else none

def extractedRecords (start finish : Seconds) (results : Results) (entity : String) : Option ℤ :=
  let points := ((rangeValues results.recordsRange "entity").get? entity).getD []
  let last := (instantValues results.recordsEnd "entity").get? entity
  (counterIncrease (recordsBaseline results entity) (withEnd points finish last) start).map
    lastIncrease

/-- A ratio that the gauge has not moved to inside the run is the one of the previous run. -/
def waitingForCheckpoint (start finish : Seconds) (results : Results) (entity : String) : Bool :=
  let ratio := (instantValues results.fileProgress "entity").get? entity
  let points := ((rangeValues results.fileProgressRange "entity").get? entity).getD []
  ratio.isSome && !gaugeMoved ((instantValues results.fileProgressStart "entity").get? entity)
    (withEnd points finish ratio) start

def shapeEntity (start finish : Seconds) (results : Results) (entity : String) : EntityProgress :=
  let extracted := extractedRecords start finish results entity
  let waiting := waitingForCheckpoint start finish results entity
  let ratio := if waiting then none else (instantValues results.fileProgress "entity").get? entity
  ⟨entity, extracted, ratio, expectedRecords extracted ratio, waiting⟩

def ackedIncrease (start finish : Seconds) (results : Results) (name : String) :
    Option (List Point) :=
  let points := ((rangeValues results.ackedRange "queue").get? name).getD []
  let last := (instantValues results.ackedEnd "queue").get? name
  counterIncrease ((instantValues results.ackedStart "queue").get? name)
    (withEnd points finish last) start

def shapeQueue (start finish : Seconds) (results : Results) (consumer : String)
    (queue : Browser.TopologyQueue) : QueueLoad :=
  let increase := ackedIncrease start finish results queue.name
  ⟨queue.name, consumer, queue.entity,
    (instantValues results.ackedStart "queue").get? queue.name, increase.map lastIncrease,
    (increase.getD []).map fun point => (point.time, roundHalfEven point.value)⟩

def shapeProgress (pipeline : RunPipeline) (start finish : Seconds) (results : Results) :
    RunProgress where
  pipeline := pipeline.id
  start := start
  finish := finish
  entities := pipeline.entityTypes.map (shapeEntity start finish results)
  queues := pipeline.consumers.flatMap fun consumer =>
    consumer.queues.map (shapeQueue start finish results consumer.name)

section Queries

/-- The last series with a label value and a finite sample tells the sample. -/
def instantSample (result : List Series) (label key : String) : Option ℚ :=
  result.reverse.findSome? fun series =>
    if series.metric.get? label = some key then series.value.number else none

/-- The last series with a label value tells the points. -/
def rangePoints (result : List Series) (label key : String) : Option (List Point) :=
  (result.reverse.find? fun series => series.metric.get? label = some key).map Series.points

variable (result : List Series) (label key : String)

theorem get?_instantValues :
    (instantValues result label).get? key = instantSample result label key := by
  induction result using List.reverseRecOn with
  | nil => rfl
  | append_singleton earlier series ih =>
      have last : instantValues (earlier ++ [series]) label =
          instantStep label (instantValues earlier label) series := by
        simp [instantValues, List.foldl_append]
      have split : instantSample (earlier ++ [series]) label key =
          ((if series.metric.get? label = some key then series.value.number else none) <|>
            instantSample earlier label key) := by
        rw [instantSample, List.reverse_append, List.reverse_singleton, List.singleton_append,
          List.findSome?_cons]
        cases (if series.metric.get? label = some key then series.value.number else none) <;> rfl
      rw [last, split, ← ih, instantStep]
      cases series.metric.get? label with
      | none => simp
      | some named =>
          cases series.value.number with
          | none => simp
          | some value =>
              by_cases same : named = key
              · simp [same]
              · have other : key ≠ named := fun equal => same equal.symm
                simp [same, other]

theorem get?_rangeValues :
    (rangeValues result label).get? key = rangePoints result label key := by
  induction result using List.reverseRecOn with
  | nil => rfl
  | append_singleton earlier series ih =>
      have last : rangeValues (earlier ++ [series]) label =
          rangeStep label (rangeValues earlier label) series := by
        simp [rangeValues, List.foldl_append]
      rw [last, rangePoints, List.reverse_append, List.reverse_singleton, List.singleton_append,
        List.find?_cons, rangeStep]
      rw [rangePoints] at ih
      cases named : series.metric.get? label with
      | none => simp [ih]
      | some other =>
          by_cases same : other = key
          · simp [same]
          · have unequal : key ≠ other := fun equal => same equal.symm
            simp [same, unequal, ih]

end Queries

section Points

instance : Std.Total Point.Before where
  total first second := by
    rcases lt_trichotomy first.time second.time with less | same | greater
    · exact .inl (.inl less)
    · rcases le_total first.value second.value with below | above
      · exact .inl (.inr ⟨same, below⟩)
      · exact .inr (.inr ⟨same.symm, above⟩)
    · exact .inr (.inl greater)

instance : IsTrans Point Point.Before where
  trans first second third one two := by
    rcases one with less | ⟨same, below⟩
    · rcases two with further | ⟨equal, _⟩
      · exact .inl (less.trans further)
      · exact .inl (equal ▸ less)
    · rcases two with further | ⟨equal, above⟩
      · exact .inl (same ▸ further)
      · exact .inr ⟨same.trans equal, below.trans above⟩

def InTimeOrder (points : List Point) : Prop := points.Pairwise Point.Before

theorem Series.points_ordered (series : Series) : InTimeOrder series.points :=
  List.pairwise_insertionSort Point.Before _

theorem Series.mem_points_iff (series : Series) (point : Point) :
    point ∈ series.points ↔ (point.time, Raw.finite point.value) ∈ series.values := by
  rw [Series.points, List.mem_insertionSort, List.mem_filterMap]
  constructor
  · rintro ⟨⟨time, raw⟩, member, shown⟩
    cases raw with
    | finite value =>
        simp only [Raw.number, Option.map_some, Option.some.injEq] at shown
        rw [← shown]
        exact member
    | notFinite => simp [Raw.number] at shown
    | unreadable => simp [Raw.number] at shown
  · intro member
    exact ⟨_, member, rfl⟩

theorem rangePoints_ordered (result : List Series) (label key : String) :
    InTimeOrder ((rangePoints result label key).getD []) := by
  rw [rangePoints]
  cases result.reverse.find? fun series => series.metric.get? label = some key with
  | none => exact List.Pairwise.nil
  | some series => exact series.points_ordered

/-- The last point in order reaches an instant exactly when some point does. -/
theorem getLast?_reaches_iff (points : List Point) (finish : Seconds)
    (ordered : InTimeOrder points) :
    (points.getLast?.any fun point => decide (finish ≤ point.time)) = true ↔
      ∃ point ∈ points, finish ≤ point.time := by
  induction points using List.reverseRecOn with
  | nil => simp
  | append_singleton earlier last _ =>
      have latest : ∀ point ∈ earlier, point.Before last := fun point member =>
        (List.pairwise_append.mp ordered).2.2 point member last (List.mem_singleton_self last)
      rw [List.getLast?_concat, Option.any_some, decide_eq_true_iff]
      constructor
      · intro reached
        exact ⟨last, by simp, reached⟩
      · rintro ⟨point, member, reached⟩
        rcases List.mem_append.mp member with inside | equal
        · rcases latest point inside with less | ⟨same, _⟩
          · exact reached.trans less.le
          · exact same ▸ reached
        · rw [List.mem_singleton.mp equal] at reached
          exact reached

end Points

end OperationsConsole.Progress
