/-
This file embeds `counter_increase` of `dashboard/progress.py`, with exact arithmetic.
The increases are sound for the hidden history of every counter that the samples come from.
-/

import Mathlib.Tactic.Linarith
import Mathlib.Tactic.Ring
import OperationsConsole.Events.Readings
import OperationsConsole.Library.Counter

namespace OperationsConsole.Progress

open Library

/-- A point is a sample with its time. -/
structure Point where
  time : Seconds
  value : ℚ
  deriving DecidableEq

/-- The loop remembers the previous sample and the total, and it skips the points until the
start. -/
def increasesFrom (start : Seconds) (previous total : ℚ) : List Point → List Point
  | [] => []
  | point :: rest =>
      if point.time ≤ start then increasesFrom start previous total rest
      else
        ⟨point.time, total + gain previous point.value⟩ ::
          increasesFrom start point.value (total + gain previous point.value) rest

/-- There are no increases without a baseline. -/
def counterIncrease (baseline : Option ℚ) (points : List Point) (start : Seconds) :
    Option (List Point) :=
  baseline.map fun previous => increasesFrom start previous 0 points

/-- The samples after the start. -/
def afterStart (start : Seconds) (points : List Point) : List Point :=
  points.filter fun point => start < point.time

section Loop

variable (start : Seconds) (previous total : ℚ) (points : List Point)

/-- The loop only looks at the samples after the start. -/
theorem increasesFrom_afterStart :
    increasesFrom start previous total (afterStart start points) =
      increasesFrom start previous total points := by
  induction points generalizing previous total with
  | nil => rfl
  | cons point rest ih =>
      by_cases early : point.time ≤ start
      · rw [afterStart, List.filter_cons_of_neg (by simp [early]), increasesFrom, if_pos early]
        exact ih previous total
      · rw [afterStart, List.filter_cons_of_pos (by simpa using early), increasesFrom,
          increasesFrom, if_neg early, if_neg early]
        exact congrArg _ (ih point.value (total + gain previous point.value))

/-- There is one increase for each sample after the start. -/
theorem increasesFrom_times :
    (increasesFrom start previous total points).map Point.time =
      (afterStart start points).map Point.time := by
  induction points generalizing previous total with
  | nil => rfl
  | cons point rest ih =>
      by_cases early : point.time ≤ start
      · rw [increasesFrom, if_pos early, afterStart, List.filter_cons_of_neg (by simp [early])]
        exact ih previous total
      · rw [increasesFrom, if_neg early, afterStart,
          List.filter_cons_of_pos (by simpa using early), List.map_cons, List.map_cons]
        exact congrArg _ (ih point.value (total + gain previous point.value))

/-- The total never falls while the samples are nonnegative. -/
theorem total_le_increases (counted : ∀ point ∈ afterStart start points, 0 ≤ point.value) :
    ∀ increase ∈ increasesFrom start previous total points, total ≤ increase.value := by
  induction points generalizing previous total with
  | nil => exact fun increase member => absurd member List.not_mem_nil
  | cons point rest ih =>
      intro increase member
      by_cases early : point.time ≤ start
      · rw [afterStart, List.filter_cons_of_neg (by simp [early])] at counted
        rw [increasesFrom, if_pos early] at member
        exact ih previous total counted increase member
      · rw [afterStart, List.filter_cons_of_pos (by simpa using early)] at counted
        rw [increasesFrom, if_neg early] at member
        have grown : total ≤ total + gain previous point.value :=
          le_add_of_nonneg_right (gain_nonneg previous point.value
            (counted point List.mem_cons_self))
        rcases List.mem_cons.mp member with equal | inside
        · rw [equal]
          exact grown
        · exact grown.trans (ih point.value _ (fun other later =>
            counted other (List.mem_cons_of_mem point later)) increase inside)

/-- The increases never fall while the samples are nonnegative. -/
theorem increasesFrom_nondecreasing
    (counted : ∀ point ∈ afterStart start points, 0 ≤ point.value) :
    (increasesFrom start previous total points).Pairwise fun earlier later =>
      earlier.value ≤ later.value := by
  induction points generalizing previous total with
  | nil => exact List.Pairwise.nil
  | cons point rest ih =>
      by_cases early : point.time ≤ start
      · rw [afterStart, List.filter_cons_of_neg (by simp [early])] at counted
        rw [increasesFrom, if_pos early]
        exact ih previous total counted
      · rw [afterStart, List.filter_cons_of_pos (by simpa using early)] at counted
        have later : ∀ other ∈ afterStart start rest, 0 ≤ other.value := fun other member =>
          counted other (List.mem_cons_of_mem point member)
        rw [increasesFrom, if_neg early]
        apply List.pairwise_cons.mpr
        exact ⟨total_le_increases start point.value _ rest later, ih point.value _ later⟩

end Loop

/-- The samples come from a counter when those after its start show its value. -/
def SamplesOf (counter : Counter Seconds ℚ) (points : List Point) : Prop :=
  ∀ point ∈ afterStart counter.start points, point.value = counter.valueAt point.time

def Increasing (points : List Point) : Prop :=
  points.Pairwise fun earlier later => earlier.time ≤ later.time

section Counted

variable (counter : Counter Seconds ℚ)

/-- A point after the start leaves the later points ahead of it. -/
theorem ahead_of_increasing (point : Point) (rest : List Point)
    (increasing : Increasing (point :: rest)) :
    ∀ other ∈ afterStart counter.start rest, point.time ≤ other.time := fun other member =>
  (List.pairwise_cons.mp increasing).1 other (List.mem_of_mem_filter member)

/-- The total stays at most the true growth. -/
theorem increasesFrom_le_grown (points : List Point) (now : Seconds) (total : ℚ)
    (increasing : Increasing points) (samples : SamplesOf counter points)
    (ahead : ∀ point ∈ afterStart counter.start points, now ≤ point.time)
    (bounded : total ≤ counter.grownAt now) :
    ∀ increase ∈ increasesFrom counter.start (counter.valueAt now) total points,
      increase.value ≤ counter.grownAt increase.time := by
  induction points generalizing now total with
  | nil => exact fun increase member => absurd member List.not_mem_nil
  | cons point rest ih =>
      intro increase member
      have later : Increasing rest := (List.pairwise_cons.mp increasing).2
      by_cases early : point.time ≤ counter.start
      · rw [SamplesOf, afterStart, List.filter_cons_of_neg (by simp [early])] at samples
        rw [afterStart, List.filter_cons_of_neg (by simp [early])] at ahead
        rw [increasesFrom, if_pos early] at member
        exact ih now total later samples ahead bounded increase member
      · rw [SamplesOf, afterStart, List.filter_cons_of_pos (by simpa using early)] at samples
        rw [afterStart, List.filter_cons_of_pos (by simpa using early)] at ahead
        have shown : point.value = counter.valueAt point.time := samples point List.mem_cons_self
        have gained := counter.gain_le_grown now point.time (ahead point List.mem_cons_self)
        have next : total + gain (counter.valueAt now) point.value ≤
            counter.grownAt point.time := by
          rw [shown]
          linarith
        rw [increasesFrom, if_neg early] at member
        rcases List.mem_cons.mp member with equal | inside
        · rw [equal]
          exact next
        · rw [shown] at inside next
          exact ih point.time _ later (fun other known =>
            samples other (List.mem_cons_of_mem point known))
            (ahead_of_increasing counter point rest increasing) next increase inside

/-- The total is the difference to the baseline until the first reset. -/
theorem increasesFrom_exact (points : List Point) (now : Seconds) (total : ℚ)
    (increasing : Increasing points) (samples : SamplesOf counter points)
    (ahead : ∀ point ∈ afterStart counter.start points, now ≤ point.time)
    (exact : Change.reset ∉ counter.happened now →
      total = counter.valueAt now - counter.baseline) :
    ∀ point ∈ afterStart counter.start points, Change.reset ∉ counter.happened point.time →
      ⟨point.time, point.value - counter.baseline⟩ ∈
        increasesFrom counter.start (counter.valueAt now) total points := by
  induction points generalizing now total with
  | nil => exact fun point member => absurd member List.not_mem_nil
  | cons point rest ih =>
      intro chosen member unbroken
      have later : Increasing rest := (List.pairwise_cons.mp increasing).2
      by_cases early : point.time ≤ counter.start
      · rw [SamplesOf, afterStart, List.filter_cons_of_neg (by simp [early])] at samples
        rw [afterStart, List.filter_cons_of_neg (by simp [early])] at ahead member
        rw [increasesFrom, if_pos early]
        exact ih now total later samples ahead exact chosen member unbroken
      · rw [SamplesOf, afterStart, List.filter_cons_of_pos (by simpa using early)] at samples
        rw [afterStart, List.filter_cons_of_pos (by simpa using early)] at ahead member
        have shown : point.value = counter.valueAt point.time := samples point List.mem_cons_self
        have reached : now ≤ point.time := ahead point List.mem_cons_self
        have next : Change.reset ∉ counter.happened point.time →
            total + gain (counter.valueAt now) point.value =
              counter.valueAt point.time - counter.baseline := by
          intro whole
          have before : Change.reset ∉ counter.happened now := fun broken =>
            whole ((counter.happened_prefix now point.time reached).subset broken)
          rw [shown, counter.gain_of_unbroken now point.time reached whole, exact before]
          ring
        rw [increasesFrom, if_neg early]
        rcases List.mem_cons.mp member with equal | inside
        · rw [equal] at unbroken ⊢
          rw [next unbroken, ← shown]
          exact List.mem_cons_self
        · apply List.mem_cons_of_mem
          rw [shown] at next ⊢
          exact ih point.time _ later (fun other known =>
            samples other (List.mem_cons_of_mem point known))
            (ahead_of_increasing counter point rest increasing) next chosen inside unbroken

end Counted

/-- Sound increases follow the samples after the start, never fall, never exceed the true growth,
and are exact until the first reset. -/
structure SoundIncreases (counter : Counter Seconds ℚ) (points increases : List Point) :
    Prop where
  times : increases.map Point.time = (afterStart counter.start points).map Point.time
  nonneg : ∀ increase ∈ increases, 0 ≤ increase.value
  nondecreasing : increases.Pairwise fun earlier later => earlier.value ≤ later.value
  bounded : ∀ increase ∈ increases, increase.value ≤ counter.grownAt increase.time
  exact : ∀ point ∈ afterStart counter.start points,
    Change.reset ∉ counter.happened point.time →
      ⟨point.time, point.value - counter.baseline⟩ ∈ increases

/-- The increases of a counter are sound for its hidden history. -/
theorem increasesFrom_sound (counter : Counter Seconds ℚ) (points : List Point)
    (increasing : Increasing points) (samples : SamplesOf counter points) :
    SoundIncreases counter points
      (increasesFrom counter.start counter.baseline 0 points) := by
  have counted : ∀ point ∈ afterStart counter.start points, 0 ≤ point.value := by
    intro point member
    rw [samples point member]
    exact counter.valueAt_nonneg point.time
  have ahead : ∀ point ∈ afterStart counter.start points, counter.start ≤ point.time :=
    fun point member => (of_decide_eq_true (List.mem_filter.mp member).2).le
  constructor
  · exact increasesFrom_times counter.start counter.baseline 0 points
  · exact total_le_increases counter.start counter.baseline 0 points counted
  · exact increasesFrom_nondecreasing counter.start counter.baseline 0 points counted
  · rw [← counter.valueAt_start]
    apply increasesFrom_le_grown counter points counter.start 0 increasing samples ahead
    rw [counter.grownAt_start]
  · intro point member unbroken
    have started : 0 = counter.valueAt counter.start - counter.baseline := by
      rw [counter.valueAt_start, sub_self]
    have listed := increasesFrom_exact counter points counter.start 0 increasing samples ahead
      (fun _ => started) point member unbroken
    rw [counter.valueAt_start] at listed
    exact listed

/-- The increase of every counter is sound, ignores the samples until the start, and is absent
exactly without a baseline. -/
theorem counterIncrease_sound :
    (∀ (counter : Counter Seconds ℚ) (points : List Point), Increasing points →
      SamplesOf counter points → ∃ increases,
        counterIncrease (some counter.baseline) points counter.start = some increases ∧
          SoundIncreases counter points increases) ∧
    (∀ baseline points start,
      counterIncrease baseline (afterStart start points) start =
        counterIncrease baseline points start) ∧
    ∀ baseline points start, counterIncrease baseline points start = none ↔ baseline = none := by
  refine ⟨?_, ?_, ?_⟩
  · intro counter points increasing samples
    exact ⟨_, rfl, increasesFrom_sound counter points increasing samples⟩
  · intro baseline points start
    cases baseline with
    | none => rfl
    | some previous => exact congrArg some (increasesFrom_afterStart start previous 0 points)
  · intro baseline points start
    exact Option.map_eq_none_iff

/-- This counter restarts between two samples and has grown by 27. -/
def restartedCounter : Counter Seconds ℚ where
  start := 0
  baseline := 100
  changes := [(1, .grow 20), (2, .reset), (3, .grow 7)]
  counted := by decide
  grows := by
    simp only [List.mem_cons, List.not_mem_nil, or_false]
    rintro change (rfl | rfl | rfl) <;> decide
  ordered := by decide
  begun := by
    simp only [List.mem_cons, List.not_mem_nil, or_false]
    rintro change (rfl | rfl | rfl) <;> decide

/-- The increase of the restarted counter is sound. -/
theorem counterIncrease_restarted :
    ∃ increases, counterIncrease (some 100) [⟨1, 120⟩, ⟨4, 7⟩] 0 = some increases ∧
      SoundIncreases restartedCounter [⟨1, 120⟩, ⟨4, 7⟩] increases := by
  apply counterIncrease_sound.1 restartedCounter [⟨1, 120⟩, ⟨4, 7⟩]
  · show List.Pairwise _ _
    decide
  · show ∀ point ∈ _, _
    decide +kernel

end OperationsConsole.Progress
