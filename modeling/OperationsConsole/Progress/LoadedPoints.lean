/-
This file studies the loaded points of a queue. The points follow in time, and the rounded counts
never fall, whatever resets the samples show.
-/

import OperationsConsole.Progress.ShapeProgress

namespace OperationsConsole.Progress

open Library

section Rounding

/-- These numbers are rounded up: they are past the middle, or at the middle after an odd number. -/
def RoundsUp (value : ℚ) : Prop :=
  1 / 2 < value - ⌊value⌋ ∨ value - ⌊value⌋ = 1 / 2 ∧ ⌊value⌋ % 2 = 1

theorem roundHalfEven_of_roundsUp (value : ℚ) (up : RoundsUp value) :
    roundHalfEven value = ⌊value⌋ + 1 := by
  unfold roundHalfEven
  dsimp only
  rcases up with past | ⟨middle, odd⟩
  · rw [if_neg past.not_gt, if_pos past]
  · rw [middle, if_neg (lt_irrefl _), if_neg (lt_irrefl _), if_neg (by omega)]

theorem roundHalfEven_of_not_roundsUp (value : ℚ) (down : ¬RoundsUp value) :
    roundHalfEven value = ⌊value⌋ := by
  unfold roundHalfEven
  obtain ⟨within, even⟩ := not_or.mp down
  dsimp only
  split
  · rfl
  · rename_i reached
    have middle : value - ⌊value⌋ = 1 / 2 := le_antisymm (not_lt.mp within) (not_lt.mp reached)
    have parity : ⌊value⌋ % 2 = 0 := by
      have odd : ¬⌊value⌋ % 2 = 1 := fun odd => even ⟨middle, odd⟩
      omega
    rw [if_pos parity]

/-- A larger number with the same floor is rounded up too. -/
theorem RoundsUp.mono (first second : ℚ) (up : RoundsUp first) (ordered : first ≤ second)
    (same : ⌊first⌋ = ⌊second⌋) : RoundsUp second := by
  have further : first - ⌊first⌋ ≤ second - ⌊second⌋ := by
    rw [same]
    exact sub_le_sub_right ordered _
  rcases up with past | ⟨middle, odd⟩
  · exact .inl (past.trans_le further)
  · rcases eq_or_lt_of_le (middle.symm.trans_le further) with equal | less
    · exact .inr ⟨equal.symm, same ▸ odd⟩
    · exact .inl less

theorem roundHalfEven_mono (first second : ℚ) (ordered : first ≤ second) :
    roundHalfEven first ≤ roundHalfEven second := by
  have floors : ⌊first⌋ ≤ ⌊second⌋ := Int.floor_le_floor ordered
  have lower : ⌊second⌋ ≤ roundHalfEven second := le_roundHalfEven _ _ (Int.floor_le second)
  by_cases up : RoundsUp first
  · rw [roundHalfEven_of_roundsUp first up]
    rcases eq_or_lt_of_le floors with same | less
    · rw [roundHalfEven_of_roundsUp second (up.mono first second ordered same), same]
    · exact (Int.add_one_le_of_lt less).trans lower
  · rw [roundHalfEven_of_not_roundsUp first up]
    exact floors.trans lower

end Rounding

section Samples

/-- A counter shows no negative number. -/
def NonnegativeSamples (result : List Series) : Prop :=
  ∀ series ∈ result, (∀ value, series.value.number = some value → 0 ≤ value) ∧
    ∀ point ∈ series.points, 0 ≤ point.value

theorem instantSample_nonneg (result : List Series) (label key : String)
    (counted : NonnegativeSamples result) (value : ℚ)
    (found : instantSample result label key = some value) : 0 ≤ value := by
  obtain ⟨series, member, shown⟩ := List.exists_of_findSome?_eq_some found
  split at shown
  · exact (counted series (List.mem_reverse.mp member)).1 value shown
  · exact absurd shown (by simp)

theorem rangePoints_nonneg (result : List Series) (label key : String)
    (counted : NonnegativeSamples result) :
    ∀ point ∈ (rangePoints result label key).getD [], 0 ≤ point.value := by
  unfold rangePoints
  cases found : result.reverse.find? fun series => series.metric.get? label = some key with
  | none => exact fun point member => absurd member List.not_mem_nil
  | some series =>
      exact (counted series (List.mem_reverse.mp (List.mem_of_find?_eq_some found))).2

theorem withEnd_ordered (points : List Point) (finish : Seconds) (value : Option ℚ)
    (ordered : InTimeOrder points) : InTimeOrder (withEnd points finish value) := by
  unfold withEnd
  cases value with
  | none => exact ordered
  | some value =>
      dsimp only
      split
      · exact ordered
      · rename_i unreached
        have earlier : ¬∃ point ∈ points, finish ≤ point.time := fun reached =>
          unreached ((getLast?_reaches_iff points finish ordered).mpr reached)
        apply List.pairwise_append.mpr
        refine ⟨ordered, List.pairwise_singleton _ _, ?_⟩
        intro point member last equal
        rw [List.mem_singleton.mp equal]
        exact .inl (not_le.mp fun reached => earlier ⟨point, member, reached⟩)

theorem withEnd_nonneg (points : List Point) (finish : Seconds) (value : Option ℚ)
    (counted : ∀ point ∈ points, 0 ≤ point.value) (last : ∀ number, value = some number → 0 ≤ number) :
    ∀ point ∈ withEnd points finish value, 0 ≤ point.value := by
  unfold withEnd
  cases value with
  | none => exact counted
  | some number =>
      dsimp only
      split
      · exact counted
      · intro point member
        rcases List.mem_append.mp member with inside | equal
        · exact counted point inside
        · rw [List.mem_singleton.mp equal]
          exact last number rfl

end Samples

section Loaded

variable (start finish : Seconds) (results : Results)

/-- These points follow in time, and their counts never fall. -/
def Loading (points : List (Seconds × ℤ)) : Prop :=
  (points.Pairwise fun earlier later => earlier.1 ≤ later.1 ∧ earlier.2 ≤ later.2) ∧
    ∀ point ∈ points, 0 ≤ point.2

/-- The points of a queue load it, whatever resets its samples show. -/
theorem shapeQueue_loading (counted : NonnegativeSamples results.ackedRange)
    (countedEnd : NonnegativeSamples results.ackedEnd) (consumer : String)
    (queue : Browser.TopologyQueue) :
    Loading (shapeQueue start finish results consumer queue).points := by
  let samples := withEnd (((rangeValues results.ackedRange "queue").get? queue.name).getD []) finish
    ((instantValues results.ackedEnd "queue").get? queue.name)
  have ordered : InTimeOrder samples := by
    apply withEnd_ordered
    rw [get?_rangeValues]
    exact rangePoints_ordered results.ackedRange "queue" queue.name
  have nonneg : ∀ point ∈ samples, 0 ≤ point.value := by
    apply withEnd_nonneg
    · rw [get?_rangeValues]
      exact rangePoints_nonneg results.ackedRange "queue" queue.name counted
    · rw [get?_instantValues]
      exact instantSample_nonneg results.ackedEnd "queue" queue.name countedEnd
  change Loading (((counterIncrease _ samples start).getD []).map fun point =>
    (point.time, roundHalfEven point.value))
  cases (instantValues results.ackedStart "queue").get? queue.name with
  | none => exact ⟨List.Pairwise.nil, fun point member => absurd member List.not_mem_nil⟩
  | some previous =>
      change Loading ((increasesFrom start previous 0 samples).map fun point =>
        (point.time, roundHalfEven point.value))
      have inRun : ∀ point ∈ afterStart start samples, 0 ≤ point.value := fun point member =>
        nonneg point (List.mem_of_mem_filter member)
      have times : (increasesFrom start previous 0 samples).Pairwise fun earlier later =>
          earlier.time ≤ later.time := by
        apply List.pairwise_map.mp
        rw [increasesFrom_times]
        apply List.pairwise_map.mpr
        apply (ordered.sublist List.filter_sublist).imp
        rintro earlier later (less | ⟨same, _⟩)
        · exact less.le
        · exact same.le
      have values := increasesFrom_nondecreasing start previous 0 samples inRun
      constructor
      · apply List.pairwise_map.mpr
        exact (times.and values).imp fun both => ⟨both.1, roundHalfEven_mono _ _ both.2⟩
      · intro point member
        obtain ⟨increase, inside, rfl⟩ := List.mem_map.mp member
        have grown := total_le_increases start previous 0 samples inRun increase inside
        exact le_roundHalfEven 0 increase.value (by exact_mod_cast grown)

/-- Every queue of a run loads. -/
theorem shapeProgress_loading (pipeline : RunPipeline)
    (counted : NonnegativeSamples results.ackedRange)
    (countedEnd : NonnegativeSamples results.ackedEnd) :
    ∀ load ∈ (shapeProgress pipeline start finish results).queues, Loading load.points := by
  intro load member
  obtain ⟨consumer, _, inside⟩ := List.mem_flatMap.mp member
  obtain ⟨queue, _, rfl⟩ := List.mem_map.mp inside
  exact shapeQueue_loading start finish results counted countedEnd consumer.name queue

end Loaded

end OperationsConsole.Progress
