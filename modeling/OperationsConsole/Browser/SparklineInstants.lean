/-
This file finds when a tile of the queue trends and its sparkline describe the same instants.
A sparkline adds positions, and an instant has another position in a queue that started later.
-/

import Mathlib.Algebra.Order.BigOperators.Group.List
import Mathlib.Algebra.Order.Ring.Rat
import OperationsConsole.Browser.QueueSparklines
import OperationsConsole.Library.Alignment

namespace OperationsConsole.Browser.QueueSparklines

open Library OperationsConsole.History

section Purpose

variable (queues : List DatedQueue)

/-- A queue without a point at an instant counts zero. -/
def totalAt (time : ℚ) : ℚ :=
  (queues.map fun queue => groupSum Prod.fst Prod.snd (queue.track "messages_ready") time).sum

/-- The sparkline has one point for each instant of the queues, in order, and the last point is the
value of the tile. -/
structure SameInstants (tile : Tile) : Prop where
  instants : ∃ times : List ℚ, times.Pairwise (· < ·) ∧
    (∀ time, time ∈ times ↔ ∃ queue ∈ queues, time ∈ queue.times) ∧
    tile.spark = times.map (totalAt queues)
  latest : tile.spark.getLast?.getD 0 = tile.value

/-- These are the instants of the queues in order. -/
def instants : List ℚ := ((queues.flatMap DatedQueue.times).dedup).insertionSort (· ≤ ·)

/-- The last value of a queue that ends before the last instant. -/
def early (queue : DatedQueue) : ℚ :=
  match (queue.track "messages_ready").getLast? with
  | some entry => if (instants queues).getLast? = some entry.1 then 0 else entry.2
  | none => 0

/-- Some queue has a point at every instant, the values that stand before the place of their
instant add up to zero, and so do the last values of the queues that end early. -/
structure Aligned : Prop where
  full : instants queues = [] ∨ ∃ queue ∈ queues, instants queues ⊆ queue.times
  settled : ∀ count ≤ (instants queues).length,
    displacedSum (instants queues) (queues.map (DatedQueue.track "messages_ready")) count = 0
  ended : (queues.map (early queues)).sum = 0

end Purpose

section Tracks

variable (queue : DatedQueue)

/-- The times of a track are the times of its queue. -/
theorem track_times (field : String) : (queue.track field).map Prod.fst = queue.times := by
  unfold DatedQueue.track
  apply List.map_fst_zip
  rw [List.length_map, queue.dated]

theorem track_length (field : String) :
    (queue.track field).length = queue.series.dataPoints.length := by
  rw [← List.length_map Prod.fst, track_times, queue.dated]

/-- A track has the values of the data points in their places. -/
theorem track_value (field : String) (position : ℕ) :
    (queue.track field)[position]?.map Prod.snd =
      queue.series.dataPoints[position]?.map (reading field) := by
  have values : (queue.track field).map Prod.snd = queue.series.dataPoints.map (reading field) := by
    unfold DatedQueue.track
    apply List.map_snd_zip
    rw [List.length_map, queue.dated]
  rw [← List.getElem?_map, values, List.getElem?_map]

end Tracks

section Instants

variable (queues : List DatedQueue)

/-- The instants are the times of the queues. -/
theorem mem_instants_iff (time : ℚ) :
    time ∈ instants queues ↔ ∃ queue ∈ queues, time ∈ queue.times := by
  unfold instants
  rw [List.mem_insertionSort, List.mem_dedup, List.mem_flatMap]

theorem instants_sorted : (instants queues).Pairwise (· < ·) :=
  insertionSort_strict _ (List.nodup_dedup _)

/-- A listing of the same instants in order is the same. -/
theorem eq_instants (times : List ℚ) (ordered : times.Pairwise (· < ·))
    (same : ∀ time, time ∈ times ↔ ∃ queue ∈ queues, time ∈ queue.times) :
    times = instants queues :=
  eq_of_increasing _ _ ordered (instants_sorted queues) fun time =>
    (same time).trans (mem_instants_iff queues time).symm

end Instants

section Sparkline

variable (queues : List DatedQueue)

/-- This is the number of points of the longest queue. -/
def longest : ℕ := ((queues.map fun queue => queue.series.dataPoints.length).max?).getD 0

theorem foldl_add {α : Type} (items : List α) (value : α → ℚ) (start : ℚ) :
    items.foldl (fun sum item => sum + value item) start = start + (items.map value).sum := by
  induction items generalizing start with
  | nil => exact (add_zero start).symm
  | cons item items ih => rw [List.foldl_cons, ih, List.map_cons, List.sum_cons, add_assoc]

/-- The sparkline is the sum of the tracks by their positions. -/
theorem aggregateSparkline_eq (field : String) :
    aggregateSparkline field (queues.map DatedQueue.series) =
      (List.range (longest queues)).map
        (positionSum (queues.map (DatedQueue.track field))) := by
  have lengths : (queues.map DatedQueue.series).map (fun queue => queue.dataPoints.length) =
      queues.map fun queue => queue.series.dataPoints.length := by
    rw [List.map_map]
    rfl
  have points (position : ℕ) : (queues.map DatedQueue.series).foldl
      (fun sum queue => addPoint field sum queue.dataPoints[position]?) 0 =
        positionSum (queues.map (DatedQueue.track field)) position := by
    have added (sum : ℚ) (queue : QueueSeries) :
        addPoint field sum queue.dataPoints[position]? =
          sum + (queue.dataPoints[position]?.map (reading field)).getD 0 := by
      cases queue.dataPoints[position]? with
      | none => exact (add_zero sum).symm
      | some point => rfl
    simp only [added]
    rw [foldl_add, zero_add, List.map_map]
    unfold positionSum
    rw [List.map_map]
    congr 1
    apply List.map_congr_left
    intro queue _
    rw [Function.comp_apply, Function.comp_apply, track_value]
  unfold aggregateSparkline longest
  simp only [lengths, points]
  cases queues with
  | nil => rfl
  | cons queue queues =>
      have present : (queue :: queues).map DatedQueue.series ≠ [] := List.cons_ne_nil _ _
      rw [if_neg present]
      split
      · rename_i empty
        rw [empty]
        rfl
      · rfl

/-- The last value of a queue, if it has a point. -/
def lastValue (track : List (ℚ × ℚ)) : ℚ := (track.getLast?.map Prod.snd).getD 0

/-- The value of the tile is the sum of the last values. -/
theorem latestTotal_eq (field : String) :
    latestTotal field (queues.map DatedQueue.series) =
      (queues.map fun queue => lastValue (queue.track field)).sum := by
  unfold latestTotal
  rw [foldl_add, zero_add, List.map_map]
  congr 1
  apply List.map_congr_left
  intro queue _
  unfold lastValue
  rw [List.getLast?_eq_getElem?, track_value, track_length, ← List.getLast?_eq_getElem?,
    Function.comp_apply, latest]
  cases queue.series.dataPoints.getLast? with
  | none => rfl
  | some point => rfl

end Sparkline

section Lengths

variable (queues : List DatedQueue)

theorem times_subset (queue : DatedQueue) (member : queue ∈ queues) :
    queue.times ⊆ instants queues :=
  fun time inside => (mem_instants_iff queues time).mpr ⟨queue, member, inside⟩

/-- No queue has more points than there are instants. -/
theorem times_length_le (queue : DatedQueue) (member : queue ∈ queues) :
    queue.times.length ≤ (instants queues).length :=
  (List.subperm_of_subset (queue.ordered.imp ne_of_lt) (times_subset queues queue member)).length_le

/-- The longest queue is as long as the listing of the instants exactly if it has all of them. -/
theorem longest_eq_iff :
    longest queues = (instants queues).length ↔
      instants queues = [] ∨ ∃ queue ∈ queues, instants queues ⊆ queue.times := by
  have within (queue : DatedQueue) (member : queue ∈ queues) :
      queue.series.dataPoints.length ≤ (instants queues).length := by
    rw [← queue.dated]
    exact times_length_le queues queue member
  unfold longest
  cases found : (queues.map fun queue => queue.series.dataPoints.length).max? with
  | none =>
      have none : queues = [] := by
        rw [List.max?_eq_none_iff, List.map_eq_nil_iff] at found
        exact found
      subst none
      exact iff_of_true rfl (.inl rfl)
  | some length =>
      obtain ⟨member, most⟩ := List.max?_eq_some_iff.mp found
      obtain ⟨queue, inside, same⟩ := List.mem_map.mp member
      rw [Option.getD_some]
      constructor
      · intro all
        right
        refine ⟨queue, inside, ?_⟩
        have subperm := List.subperm_of_subset (queue.ordered.imp ne_of_lt)
          (times_subset queues queue inside)
        have perm := subperm.perm_of_length_le (by rw [queue.dated, same, all])
        exact perm.symm.subset
      · rintro (empty | ⟨other, holds, complete⟩)
        · have bound := within queue inside
          rw [empty, List.length_nil] at bound ⊢
          omega
        · have fits := (List.subperm_of_subset ((instants_sorted queues).imp ne_of_lt)
            complete).length_le
          have most := most _ (List.mem_map_of_mem (f := fun queue : DatedQueue =>
            queue.series.dataPoints.length) holds)
          have bound := within queue inside
          rw [other.dated] at fits
          omega

end Lengths

section Ends

variable (queues : List DatedQueue)

theorem le_last (last : ℚ) (final : (instants queues).getLast? = some last) (time : ℚ)
    (member : time ∈ instants queues) : time ≤ last := by
  obtain ⟨first, split⟩ := List.getLast?_eq_some_iff.mp final
  have sorted := instants_sorted queues
  rw [split] at member sorted
  rcases List.mem_append.mp member with before | same
  · exact ((List.pairwise_append.mp sorted).2.2 time before last (List.mem_singleton_self _)).le
  · exact (List.mem_singleton.mp same).le

/-- The last value of a queue belongs to the last instant, or the queue ends early. -/
theorem lastValue_eq (queue : DatedQueue) (member : queue ∈ queues) (last : ℚ)
    (final : (instants queues).getLast? = some last) :
    lastValue (queue.track "messages_ready") =
      groupSum Prod.fst Prod.snd (queue.track "messages_ready") last + early queues queue := by
  have times := track_times queue "messages_ready"
  have ordered := queue.ordered
  have listed := times_subset queues queue member
  unfold early
  rw [← times] at ordered listed
  rw [final]
  rcases List.eq_nil_or_concat (queue.track "messages_ready") with empty | ⟨first, entry, split⟩
  · rw [empty]
    exact (add_zero (0 : ℚ)).symm
  · rw [List.concat_eq_append] at split
    rw [split] at ordered listed ⊢
    rw [List.map_append, List.map_singleton] at ordered listed
    have bound := le_last queues last final entry.1
      (listed (List.mem_append_right _ (List.mem_singleton_self _)))
    have none : groupOf Prod.fst first last = [] := by
      rw [groupOf_eq_nil_iff]
      rintro other inside rfl
      have less := (List.pairwise_append.mp ordered).2.2 _ (List.mem_map_of_mem inside) entry.1
        (List.mem_singleton_self _)
      exact absurd bound (not_le.mpr less)
    have before : groupSum Prod.fst Prod.snd first last = 0 := by
      unfold groupSum
      rw [none]
      rfl
    rw [groupSum_concat, before, zero_add]
    unfold lastValue
    simp only [List.getLast?_append, List.getLast?_singleton, Option.some_or, Option.map_some,
      Option.getD_some, Option.some.injEq]
    by_cases same : entry.1 = last
    · rw [if_pos same, if_pos same.symm, add_zero]
    · rw [if_neg same, if_neg (Ne.symm same), zero_add]

/-- The value of a tile is the total at the last instant exactly if no value is left over from the
queues that end early. -/
theorem latestTotal_eq_totalAt (queues : List DatedQueue) :
    latestTotal "messages_ready" (queues.map DatedQueue.series) =
      ((instants queues).getLast?.map (totalAt queues)).getD 0 +
        (queues.map (early queues)).sum := by
  rw [latestTotal_eq]
  cases final : (instants queues).getLast? with
  | none =>
      have empty : instants queues = [] := List.getLast?_eq_none_iff.mp final
      rw [Option.map_none, Option.getD_none, zero_add]
      congr 1
      apply List.map_congr_left
      intro queue member
      have listed := times_subset queues queue member
      rw [empty, List.subset_nil, ← track_times queue "messages_ready", List.map_eq_nil_iff]
        at listed
      unfold early
      rw [listed]
      rfl
  | some last =>
      rw [Option.map_some, Option.getD_some]
      unfold totalAt
      rw [← List.sum_map_add]
      congr 1
      apply List.map_congr_left
      intro queue member
      exact lastValue_eq queues queue member last final

end Ends

section Tile

variable (queues : List DatedQueue)

/-- The sparkline shows the totals of the instants exactly if some queue has every instant and the
values before their places cancel. -/
theorem sparkline_eq_totals_iff :
    aggregateSparkline "messages_ready" (queues.map DatedQueue.series) =
        (instants queues).map (totalAt queues) ↔
      (instants queues = [] ∨ ∃ queue ∈ queues, instants queues ⊆ queue.times) ∧
        ∀ count ≤ (instants queues).length, displacedSum (instants queues)
          (queues.map (DatedQueue.track "messages_ready")) count = 0 := by
  have positions := positionSum_eq_keySum_iff (instants queues)
    (queues.map (DatedQueue.track "messages_ready")) (instants_sorted queues) (by
      intro track member
      obtain ⟨queue, _, rfl⟩ := List.mem_map.mp member
      rw [track_times]
      exact queue.ordered) (by
      intro track member
      obtain ⟨queue, inside, rfl⟩ := List.mem_map.mp member
      rw [track_times]
      exact times_subset queues queue inside)
  have keyed (time : ℚ) : keySum (queues.map (DatedQueue.track "messages_ready")) time =
      totalAt queues time := by
    unfold keySum totalAt
    rw [List.map_map]
    rfl
  simp only [keyed] at positions
  rw [aggregateSparkline_eq, ← positions, ← longest_eq_iff]
  exact map_range_eq_iff _ _ _ _

/-- The instants and the last value leave nothing out of place. -/
theorem aligned_of_sameInstants (label : String)
    (same : SameInstants queues (sparkTile label (queues.map DatedQueue.series))) :
    Aligned queues := by
  obtain ⟨times, ordered, listed, spark⟩ := same.instants
  have final := same.latest
  rw [eq_instants queues times ordered listed] at spark
  change aggregateSparkline _ _ = _ at spark
  change (aggregateSparkline _ _).getLast?.getD 0 = latestTotal _ _ at final
  obtain ⟨full, settled⟩ := (sparkline_eq_totals_iff queues).mp spark
  rw [latestTotal_eq_totalAt, spark, List.getLast?_map] at final
  exact ⟨full, settled, add_eq_left.mp final.symm⟩

/-- Aligned queues have their totals at their instants, and the last one is the value. -/
theorem sameInstants_of_aligned (label : String) (aligned : Aligned queues) :
    SameInstants queues (sparkTile label (queues.map DatedQueue.series)) := by
  have spark := (sparkline_eq_totals_iff queues).mpr ⟨aligned.full, aligned.settled⟩
  have final : (aggregateSparkline "messages_ready" (queues.map DatedQueue.series)).getLast?.getD 0 =
      latestTotal "messages_ready" (queues.map DatedQueue.series) := by
    rw [latestTotal_eq_totalAt, spark, List.getLast?_map, aligned.ended, add_zero]
  exact ⟨⟨instants queues, instants_sorted queues, mem_instants_iff queues, spark⟩, final⟩

end Tile

/-- A tile and its sparkline describe the same instants exactly if the queues are aligned. -/
theorem sparkTile_iff (label : String) (queues : List DatedQueue) :
    SameInstants queues (sparkTile label (queues.map DatedQueue.series)) ↔ Aligned queues :=
  ⟨aligned_of_sameInstants queues label, sameInstants_of_aligned queues label⟩

/-- The two tiles of every served answer describe the same instants as their sparklines exactly if
the samples of the live queues and of the dead-letter queues are aligned. -/
theorem tiles_sameInstants_iff (python : Python) (range : RangeSpec) (values : List (List Json))
    (history : QueueHistory)
    (served : queueHistory python range (.ok values) = .ok (.shaped history))
    (single : AtMostOne python (queueFields.zip values)) :
    ∃ live dead : List DatedQueue,
      live.map DatedQueue.series = history.queues ∧
      dead.map DatedQueue.series = history.dlqSummary ∧
      (∀ queue ∈ live ++ dead,
        TimedBySamples python queueFields (queueFields.zip values) queue) ∧
      (SameInstants live (depthTile history) ↔ Aligned live) ∧
      (SameInstants dead (dlqTile history) ↔ Aligned dead) := by
  have regrouped := regrouped_of_shaped python queueFields (queueFields.zip values) _ _ single
    (shaped_of_served python range values history served)
  obtain ⟨live, dead, sameLive, sameDead, timed⟩ := datedQueues_of_regrouped python queueFields
    (queueFields.zip values) _ _ regrouped
  refine ⟨live, dead, sameLive, sameDead, timed, ?_, ?_⟩
  · rw [depthTile, ← sameLive]
    exact ⟨aligned_of_sameInstants live _, sameInstants_of_aligned live _⟩
  · rw [dlqTile, ← sameDead]
    exact ⟨aligned_of_sameInstants dead _, sameInstants_of_aligned dead _⟩

section Counts

variable (queues : List DatedQueue)

/-- A sum without negative parts is zero exactly if every part is. -/
theorem sum_eq_zero_iff {α : Type} (items : List α) (value : α → ℚ)
    (nonnegative : ∀ item ∈ items, 0 ≤ value item) :
    (items.map value).sum = 0 ↔ ∀ item ∈ items, value item = 0 := by
  constructor
  · intro zero item member
    refine List.all_zero_of_le_zero_le_of_sum_eq_zero ?_ zero (List.mem_map_of_mem member)
    intro value inside
    obtain ⟨other, present, rfl⟩ := List.mem_map.mp inside
    exact nonnegative other present
  · intro zero
    apply List.sum_eq_zero
    intro value inside
    obtain ⟨other, present, rfl⟩ := List.mem_map.mp inside
    exact zero other present

/-- Counts are not negative and cannot cancel. No point with a count stands before the place of its
instant, and no queue ends early with a count. -/
theorem aligned_counts_iff
    (counts : ∀ queue ∈ queues, ∀ entry ∈ queue.track "messages_ready", 0 ≤ entry.2) :
    Aligned queues ↔
      (instants queues = [] ∨ ∃ queue ∈ queues, instants queues ⊆ queue.times) ∧
      (∀ queue ∈ queues, ∀ count ≤ (instants queues).length,
        ∀ entry ∈ displaced (instants queues) count (queue.track "messages_ready"), entry.2 = 0) ∧
      ∀ queue ∈ queues, early queues queue = 0 := by
  have placed (queue : DatedQueue) (member : queue ∈ queues) (count : ℕ) (entry : ℚ × ℚ)
      (inside : entry ∈ displaced (instants queues) count (queue.track "messages_ready")) :
      0 ≤ entry.2 :=
    counts queue member entry (List.mem_of_mem_take (List.mem_of_mem_filter inside))
  have ends (queue : DatedQueue) (member : queue ∈ queues) : 0 ≤ early queues queue := by
    unfold early
    split
    · rename_i entry final
      split
      · exact le_rfl
      · exact counts queue member entry (List.mem_of_getLast? final)
    · exact le_rfl
  have shifted (count : ℕ) : displacedSum (instants queues)
        (queues.map (DatedQueue.track "messages_ready")) count = 0 ↔
      ∀ queue ∈ queues,
        ∀ entry ∈ displaced (instants queues) count (queue.track "messages_ready"),
          entry.2 = 0 := by
    unfold displacedSum
    rw [List.map_map, sum_eq_zero_iff]
    · refine forall₂_congr fun queue member => ?_
      exact sum_eq_zero_iff _ Prod.snd (placed queue member count)
    · intro queue member
      apply List.sum_nonneg
      intro value inside
      obtain ⟨entry, present, rfl⟩ := List.mem_map.mp inside
      exact placed queue member count entry present
  have ended := sum_eq_zero_iff queues (early queues) ends
  constructor
  · rintro ⟨full, settled, zero⟩
    refine ⟨full, ?_, ended.mp zero⟩
    intro queue member count within
    exact (shifted count).mp (settled count within) queue member
  · rintro ⟨full, settled, zero⟩
    refine ⟨full, ?_, ended.mpr zero⟩
    intro count within
    exact (shifted count).mpr fun queue member => settled queue member count within

end Counts

section Late

/-- One queue has points at two instants, and the other has one at the second instant only. -/
def earlySeries : Json := .dict
  [(literal "metric", .dict [(literal "queue", .text (literal "a"))]),
    (literal "values", .list [.list [.int 1000, .text (literal "5")],
      .list [.int 1300, .text (literal "7")]])]

def lateSeries : Json := .dict
  [(literal "metric", .dict [(literal "queue", .text (literal "b"))]),
    (literal "values", .list [.list [.int 1300, .text (literal "7")]])]

def earlyQueue : DatedQueue where
  series := ⟨literal "a", [⟨"1970-01-01T00:16:40+00:00", [("messages_ready", some 5)]⟩,
    ⟨"1970-01-01T00:21:40+00:00", [("messages_ready", some 7)]⟩]⟩
  times := [1000, 1300]
  ordered := by decide +kernel
  dated := rfl

def lateQueue : DatedQueue where
  series := ⟨literal "b", [⟨"1970-01-01T00:21:40+00:00", [("messages_ready", some 7)]⟩]⟩
  times := [1300]
  ordered := by simp
  dated := rfl

/-- A queue that starts later moves its values to earlier points of the sparkline. -/
theorem sparkTile_late :
    shapeQueues samplePython ["messages_ready"] [("messages_ready", [earlySeries, lateSeries])] =
        .ok ([earlyQueue, lateQueue].map DatedQueue.series, []) ∧
      ¬SameInstants [earlyQueue, lateQueue]
        (sparkTile "Total Queue Depth" ([earlyQueue, lateQueue].map DatedQueue.series)) := by
  refine ⟨by decide +kernel, ?_⟩
  intro same
  exact absurd same.latest (by decide +kernel)

end Late

end OperationsConsole.Browser.QueueSparklines
