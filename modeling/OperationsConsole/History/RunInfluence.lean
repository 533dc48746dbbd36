/-
This file shows that the range samples until the start of a run have no influence on its shape.
The samples of a range stand in the order of their times, if the times are numbers.
-/

import Mathlib.Data.Prod.Lex
import OperationsConsole.History.RunProgressShape

namespace OperationsConsole.History

open Library
open Progress (RunPipeline)

section Order

/-- The times of the samples are numbers. -/
def Timed (points : List TimedValue) : Prop := ∀ point ∈ points, point.time ≠ .nan

def InTimeOrder (points : List TimedValue) : Prop :=
  points.Pairwise fun earlier later => earlier.time.place ≤ later.time.place

theorem sortSamples_perm (python : Python) (points : List TimedValue) :
    (sortSamples python points).Perm points := by
  unfold sortSamples
  split
  · exact python.arrangeValues_perm points
  · exact List.perm_insertionSort _ _

/-- Two samples compare by the places of their times first and by their values second. -/
theorem before_iff (first second : TimedValue) (one : first.time ≠ .nan) (two : second.time ≠ .nan) :
    first.Before second ↔
      toLex (first.time.place, first.value) ≤ toLex (second.time.place, second.value) := by
  have same : second.time = first.time ↔ second.time.place = first.time.place :=
    ⟨congrArg Double.place, Double.eq_of_place _ _ two one⟩
  unfold TimedValue.Before
  rw [← not_lt, Prod.Lex.lt_iff, Double.lt_iff, same]
  exact not_congr (or_congr_left (and_iff_right two |>.trans (and_iff_right one)))

/-- Times that are numbers are sorted. -/
theorem sortSamples_ordered (python : Python) (points : List TimedValue) (timed : Timed points) :
    InTimeOrder (sortSamples python points) := by
  let rank (point : TimedValue) : Lex (WithBot (WithTop ℚ) × ℚ) :=
    toLex (point.time.place, point.value)
  let Ranked (first second : TimedValue) : Prop := rank first ≤ rank second
  let _ : DecidableRel Ranked := fun first second => inferInstanceAs (Decidable (_ ≤ _))
  let _ : Std.Total Ranked := ⟨fun first second => le_total (rank first) (rank second)⟩
  let _ : IsTrans TimedValue Ranked := ⟨fun _ _ _ one two => le_trans one two⟩
  have numbers : ¬(points.any fun point => point.time = .nan) = true := by
    rw [List.any_eq_true]
    rintro ⟨point, member, none⟩
    exact timed point member (of_decide_eq_true none)
  have same : points.insertionSort TimedValue.Before = points.insertionSort Ranked := by
    have mapped := List.map_insertionSort TimedValue.Before Ranked id points
      fun first one second two => before_iff first second (timed first one) (timed second two)
    rwa [List.map_id, List.map_id] at mapped
  unfold sortSamples InTimeOrder
  rw [if_neg numbers, same]
  refine (List.pairwise_insertionSort Ranked points).imp ?_
  intro earlier later before
  exact Prod.Lex.monotone_fst _ _ before

/-- A named range has samples in order, if the times of each series are numbers. -/
theorem rangePoints_ordered (python : Python) (label name : String) (result : List Json)
    (timed : ∀ series ∈ result, Timed (timedPoints python series)) :
    Timed (rangePoints python label name result) ∧
      InTimeOrder (rangePoints python label name result) := by
  unfold rangePoints
  cases found : result.reverse.find? fun series => (labelOf label series).isTextOf name with
  | none => exact ⟨fun point member => absurd member List.not_mem_nil, List.Pairwise.nil⟩
  | some series =>
      have numbers := timed series (List.mem_reverse.mp (List.mem_of_find?_eq_some found))
      refine ⟨numbers, ?_⟩
      rw [Option.map_some, Option.getD_some]
      unfold timedPoints timedValues at numbers ⊢
      cases got : series.get "values" (.list []) with
      | error exception => exact List.Pairwise.nil
      | ok values =>
          cases iterated : values.iterate with
          | error exception =>
              simp only [bind, Except.bind, iterated]
              exact List.Pairwise.nil
          | ok items =>
              cases mapped : items.zipIdx.mapM (timedValue python) with
              | error exception =>
                  simp only [bind, Except.bind, iterated, mapped]
                  exact List.Pairwise.nil
              | ok points =>
                  simp only [got, bind, Except.bind, iterated, mapped, pure, Except.pure]
                    at numbers ⊢
                  refine sortSamples_ordered python _ ?_
                  intro point member
                  exact numbers point ((sortSamples_perm python _).mem_iff.mpr member)

end Order

section Closing

variable (python : Python) (start finish : Double)

/-- The last sample reaches the end exactly if some sample does. -/
theorem reaches_iff (points : List TimedValue) (timed : Timed points) (ordered : InTimeOrder points) :
    (∃ final ∈ points.getLast?, finish.le final.time = true) ↔
      ∃ point ∈ points, finish.le point.time = true := by
  constructor
  · rintro ⟨final, last, reached⟩
    exact ⟨final, List.mem_of_getLast? last, reached⟩
  · rintro ⟨point, member, reached⟩
    obtain ⟨final, last⟩ := Option.isSome_iff_exists.mp
      (List.getLast?_isSome.mpr (List.ne_nil_of_mem member))
    obtain ⟨known, _, below⟩ := (Double.le_iff _ _).mp reached
    refine ⟨final, last, (Double.le_iff _ _).mpr
      ⟨known, timed final (List.mem_of_getLast? last), below.trans ?_⟩⟩
    have parts := List.getLast?_eq_some_iff.mp last
    obtain ⟨earlier, rfl⟩ := parts
    rcases List.mem_append.mp member with before | same
    · exact (List.pairwise_append.mp ordered).2.2 point before final List.mem_cons_self
    · rw [List.mem_singleton.mp same]

/-- A sample that reaches the end comes after the start. -/
theorem late_of_reaches (later : start.lt finish = true) (time : Double)
    (reached : finish.le time = true) : start.lt time = true := by
  obtain ⟨known, _, before⟩ := (Double.lt_iff _ _).mp later
  obtain ⟨_, timed, below⟩ := (Double.le_iff _ _).mp reached
  exact (Double.lt_iff _ _).mpr ⟨known, timed, before.trans_le below⟩

theorem not_le_of_lt (time : Double) (after : start.lt time = true) : ¬time.le start = true := by
  obtain ⟨_, _, before⟩ := (Double.lt_iff _ _).mp after
  intro early
  exact before.not_ge ((Double.le_iff _ _).mp early).2.2

/-- The samples after the start tell whether the range reaches the end. -/
theorem lateSamples_reach_iff (later : start.lt finish = true) (points : List TimedValue) :
    (∃ point ∈ lateSamples start points, finish.le point.time = true) ↔
      ∃ point ∈ points, finish.le point.time = true := by
  constructor
  · rintro ⟨point, member, reached⟩
    exact ⟨point, List.mem_of_mem_filter member, reached⟩
  · rintro ⟨point, member, reached⟩
    have after := late_of_reaches start finish later point.time reached
    have late := not_le_of_lt start point.time after
    exact ⟨point, List.mem_filter.mpr ⟨member, by simpa using late⟩, reached⟩

/-- Ranges that agree after the start agree there when they are closed. -/
theorem runSamples_congr (later : start.lt finish = true) (points others : List TimedValue)
    (timed : Timed points ∧ InTimeOrder points) (timed' : Timed others ∧ InTimeOrder others)
    (same : lateSamples start points = lateSamples start others) (last : Option ℚ) :
    runSamples start finish points last = runSamples start finish others last := by
  have reach : (∃ final ∈ points.getLast?, finish.le final.time = true) ↔
      ∃ final ∈ others.getLast?, finish.le final.time = true := by
    rw [reaches_iff finish points timed.1 timed.2, reaches_iff finish others timed'.1 timed'.2,
      ← lateSamples_reach_iff start finish later points, same,
      lateSamples_reach_iff start finish later others]
  unfold runSamples closed
  rw [List.filter_append, List.filter_append, if_congr reach rfl rfl]
  exact congrArg (· ++ _) same

/-- The loop looks at the samples after the start only. -/
theorem increasesFrom_lateSamples (previous : ℚ) (total : Double) (points : List TimedValue) :
    increasesFrom python start previous total points =
      increasesFrom python start previous total (lateSamples start points) := by
  induction points generalizing previous total with
  | nil => rfl
  | cons point rest ih =>
      by_cases early : point.time.le start = true
      · rw [increasesFrom, if_pos early, lateSamples_skip start point rest early]
        exact ih previous total
      · rw [lateSamples_keep start point rest early, increasesFrom, increasesFrom, if_neg early,
          if_neg early]
        exact congrArg _ (ih point.value _)

theorem counterIncrease_congr (points others : List TimedValue) (last baseline : Option ℚ)
    (same : runSamples start finish points last = runSamples start finish others last) :
    counterIncrease python baseline (withEnd points finish last) start =
      counterIncrease python baseline (withEnd others finish last) start := by
  cases baseline with
  | none => rfl
  | some previous =>
      unfold counterIncrease
      rw [withEnd_eq, withEnd_eq, Option.map_some, Option.map_some, increasesFrom_lateSamples,
        increasesFrom_lateSamples python start previous (.finite 0) (closed finish others last)]
      exact congrArg (fun late => some (increasesFrom python start previous (.finite 0) late)) same

/-- A gauge moves in the samples after the start. -/
theorem movedAfter_iff_late (initial : Option ℚ) (points : List TimedValue) :
    MovedAfter start initial points ↔ MovedAfter start initial (lateSamples start points) := by
  constructor
  · rintro ⟨point, member, after, other⟩
    have late := not_le_of_lt start point.time after
    exact ⟨point, List.mem_filter.mpr ⟨member, by simpa using late⟩, after, other⟩
  · rintro ⟨point, member, after, other⟩
    exact ⟨point, List.mem_of_mem_filter member, after, other⟩

theorem gaugeMoved_congr (points others : List TimedValue) (last initial : Option ℚ)
    (same : runSamples start finish points last = runSamples start finish others last) :
    gaugeMoved initial (withEnd points finish last) start =
      gaugeMoved initial (withEnd others finish last) start := by
  rw [Bool.eq_iff_iff, gaugeMoved_iff, gaugeMoved_iff, withEnd_eq, withEnd_eq,
    movedAfter_iff_late, movedAfter_iff_late start initial (closed finish others last)]
  exact Iff.of_eq (congrArg (MovedAfter start initial) same)

end Closing

section Influence

variable (python : Python) (start finish : Double)

/-- The samples of two readings agree after the start, and the rest agrees. -/
structure AgreeAfter (first second : RunNumbers) : Prop where
  held : first.held = second.held
  ackedStart : first.ackedStart = second.ackedStart
  recordsStart : first.recordsStart = second.recordsStart
  fileProgress : first.fileProgress = second.fileProgress
  fileProgressStart : first.fileProgressStart = second.fileProgressStart
  acked : ∀ name, runSamples start finish (first.ackedRange name) (first.ackedEnd name) =
    runSamples start finish (second.ackedRange name) (second.ackedEnd name)
  ackedEnd : first.ackedEnd = second.ackedEnd
  records : ∀ name, runSamples start finish (first.recordsRange name) (first.recordsEnd name) =
    runSamples start finish (second.recordsRange name) (second.recordsEnd name)
  recordsEnd : first.recordsEnd = second.recordsEnd
  progress : ∀ name,
    runSamples start finish (first.fileProgressRange name) (first.fileProgress name) =
      runSamples start finish (second.fileProgressRange name) (second.fileProgress name)

/-- A run has the same shape for numbers that agree after its start. -/
theorem shapeRun_congr (first second : RunNumbers) (agree : AgreeAfter start finish first second)
    (pipeline : RunPipeline) :
    shapeRun python start finish first pipeline = shapeRun python start finish second pipeline := by
  have entity : shapeEntity python start finish first = shapeEntity python start finish second := by
    funext name
    have increase : recordsIncrease python start finish first name =
        recordsIncrease python start finish second name := by
      have samples := agree.records name
      rw [agree.recordsEnd] at samples
      unfold recordsIncrease recordsBaseline
      rw [agree.held, agree.recordsStart, agree.recordsEnd]
      exact counterIncrease_congr python start finish _ _ _ _ samples
    have waiting : waitingForCheckpoint start finish first name =
        waitingForCheckpoint start finish second name := by
      have samples := agree.progress name
      rw [agree.fileProgress] at samples
      unfold waitingForCheckpoint
      rw [agree.fileProgress, agree.fileProgressStart]
      dsimp only
      rw [gaugeMoved_congr start finish _ _ _ _ samples]
    unfold shapeEntity trustedRatio
    rw [increase, waiting, agree.fileProgress]
  have load : shapeLoad python start finish first = shapeLoad python start finish second := by
    funext consumer queue
    have increase : ackedIncrease python start finish first queue.name =
        ackedIncrease python start finish second queue.name := by
      have samples := agree.acked queue.name
      rw [agree.ackedEnd] at samples
      unfold ackedIncrease
      rw [agree.ackedStart, agree.ackedEnd]
      exact counterIncrease_congr python start finish _ _ _ _ samples
    unfold shapeLoad
    rw [increase, agree.ackedStart]
  unfold shapeRun
  rw [entity, load]

/-- The times of the samples of the results are numbers. -/
def SampleTimes (results : List (String × List Json)) : Prop :=
  ∀ query ∈ rangeQueries, ∀ series ∈ rowsNamed results query.1, Timed (timedPoints python series)

/-- Two lists of results differ in the range samples until the start only. -/
structure SameAfter (results other : List (String × List Json)) : Prop where
  instants : ∀ query ∈ instantQueries, rowsNamed other query.1 = rowsNamed results query.1
  ranges : ∀ query ∈ rangeQueries, ∀ name,
    lateSamples start (rangePoints python query.2 name (rowsNamed other query.1)) =
      lateSamples start (rangePoints python query.2 name (rowsNamed results query.1))

theorem agreeAfter_of_same (later : start.lt finish = true) (results other : List (String × List Json))
    (timed : SampleTimes python results) (timed' : SampleTimes python other)
    (same : SameAfter python start results other) :
    AgreeAfter start finish (toldNumbers python other) (toldNumbers python results) := by
  obtain ⟨instants, ranges⟩ := same
  unfold instantQueries at instants
  simp only [List.forall_mem_cons] at instants
  obtain ⟨ackedStart, ackedEnd, recordsStart, recordsEnd, fileProgress, fileProgressStart, _⟩ :=
    instants
  have samples (query : String × String) (listed : query ∈ rangeQueries) (name : String)
      (last : Option ℚ) :=
    runSamples_congr start finish later _ _
      (rangePoints_ordered python query.2 name _ (timed' query listed))
      (rangePoints_ordered python query.2 name _ (timed query listed)) (ranges query listed name) last
  refine ⟨?_, ?_, ?_, ?_, ?_, ?_, ?_, ?_, ?_, ?_⟩
  · exact congrArg (hasNumber python "queue") ackedStart
  · exact congrArg (fun rows name => instantSample python "queue" name rows) ackedStart
  · exact congrArg (fun rows name => instantSample python "entity" name rows) recordsStart
  · exact congrArg (fun rows name => instantSample python "entity" name rows) fileProgress
  · exact congrArg (fun rows name => instantSample python "entity" name rows) fileProgressStart
  · intro name
    change runSamples start finish _ (instantSample python "queue" name _) = _
    rw [ackedEnd]
    exact samples ("acked_range", "queue") (by simp [rangeQueries]) name _
  · exact congrArg (fun rows name => instantSample python "queue" name rows) ackedEnd
  · intro name
    change runSamples start finish _ (instantSample python "entity" name _) = _
    rw [recordsEnd]
    exact samples ("records_range", "entity") (by simp [rangeQueries]) name _
  · exact congrArg (fun rows name => instantSample python "entity" name rows) recordsEnd
  · intro name
    change runSamples start finish _ (instantSample python "entity" name _) = _
    rw [fileProgress]
    exact samples ("file_progress_range", "entity") (by simp [rangeQueries]) name _

/-- The range samples until the start have no influence on the shape of a run. -/
theorem shapeProgress_sameAfter (later : start.lt finish = true) (pipeline : RunPipeline)
    (results other : List (String × List Json)) (read : RunRead python results)
    (read' : RunRead python other) (timed : SampleTimes python results)
    (timed' : SampleTimes python other) (same : SameAfter python start results other) :
    shapeProgress python pipeline start finish other =
      shapeProgress python pipeline start finish results := by
  obtain ⟨readings, one⟩ := (returns_readRun_iff python results).mpr read
  obtain ⟨others, two⟩ := (returns_readRun_iff python other).mpr read'
  unfold shapeProgress
  rw [one, two]
  change shapeRun python start finish others.numbers pipeline =
    shapeRun python start finish readings.numbers pipeline
  rw [readRun_numbers python results readings one, readRun_numbers python other others two]
  exact shapeRun_congr python start finish _ _
    (agreeAfter_of_same python start finish later results other timed timed' same) pipeline

end Influence

end OperationsConsole.History
