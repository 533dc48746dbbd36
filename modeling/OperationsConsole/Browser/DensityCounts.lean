/-
This file proves that the density series of the Ledger counts every event once.
There is one dataset for each type and provenance, with one count for each month of the axis.
-/

import Mathlib.Algebra.Order.Ring.Rat
import Mathlib.Data.List.Pairwise
import OperationsConsole.Browser.LedgerMonths
import OperationsConsole.Library.Listing

namespace OperationsConsole.Browser

open Library

def DensityBucket.count (bucket : DensityBucket) : ℚ := bucket.events.getD 0

/-- The events of a month with a type and a provenance. -/
def eventsOf (buckets : List DensityBucket) (type datedFrom month : String) : ℚ :=
  ((buckets.filter fun bucket =>
    bucket.type = type ∧ bucket.datedFrom = datedFrom ∧ bucket.month = month).map
      DensityBucket.count).sum

/-- The series has every month from the earliest bucket to the latest, one dataset for each type and
provenance with the sum of its events for each month, and the months of the backfill. -/
structure DensityLaw (buckets : List DensityBucket) (series : DensitySeries) : Prop where
  months : ∃ calendar : List CalendarMonth, series.months = calendar.map CalendarMonth.text ∧
    (calendar.Pairwise fun first second => first.number < second.number) ∧
    ∀ month, month ∈ calendar ↔
      (∃ earliest : CalendarMonth, (∃ bucket ∈ buckets, bucket.month = earliest.text) ∧
        earliest.number ≤ month.number) ∧
      ∃ latest : CalendarMonth, (∃ bucket ∈ buckets, bucket.month = latest.text) ∧
        month.number ≤ latest.number
  once : (series.datasets.map fun dataset => (dataset.type, dataset.datedFrom)).Nodup
  pairs : ∀ type datedFrom,
    (∃ dataset ∈ series.datasets, dataset.type = type ∧ dataset.datedFrom = datedFrom) ↔
      ∃ bucket ∈ buckets, bucket.type = type ∧ bucket.datedFrom = datedFrom
  counts : ∀ dataset ∈ series.datasets, dataset.counts =
    series.months.map (eventsOf buckets dataset.type dataset.datedFrom)
  conserved : (series.datasets.map fun dataset => dataset.counts.sum).sum =
    (buckets.map DensityBucket.count).sum
  ordered : series.backfilledMonths.Sublist series.months
  backfilled : ∀ month, month ∈ series.backfilledMonths ↔
    ∃ place, series.months[place]? = some month ∧ ∃ dataset ∈ series.datasets,
      dataset.datedFrom = ledgerBackfill ∧ 0 < dataset.counts.getD place 0

section Counting

variable (months : List String) (once : months.Nodup)

include once

/-- The index of a month is its place on the axis. -/
theorem get?_monthIndex (month : String) (place : ℕ) (found : months[place]? = some month) :
    (monthIndex months).get? month = some place := by
  have keys : months.zipIdx.map Prod.fst = months := by simp
  exact Dict.get?_foldl_set months.zipIdx Prod.snd .empty (keys.symm ▸ once) (month, place)
    (List.mem_zipIdx_iff_getElem?.mpr found)

/-- The events of a group are counted at their months. -/
theorem foldl_addEvents (group : List DensityBucket) (type datedFrom : String)
    (inside : ∀ bucket ∈ group, bucket.month ∈ months) :
    group.foldl (addEvents (monthIndex months)) ⟨type, datedFrom, months.map fun _ => 0⟩ =
      ⟨type, datedFrom,
        months.map (groupSum DensityBucket.month DensityBucket.count group)⟩ := by
  induction group using List.reverseRecOn with
  | nil => rfl
  | append_singleton earlier last ih =>
      rw [List.foldl_append, ih fun bucket member => inside bucket (List.mem_append_left _ member)]
      obtain ⟨place, found⟩ := List.mem_iff_getElem?.mp (inside last (by simp))
      rw [List.foldl_cons, List.foldl_nil, addEvents]
      rw [get?_monthIndex months once last.month place found]
      dsimp only
      congr 1
      rw [modify_share months once place last.month found]
      exact List.map_congr_left fun month _ => (groupSum_concat _ _ earlier last month).symm

end Counting

section Datasets

variable (localeCompare : String → String → ℤ) (buckets : List DensityBucket)
  (months : List String) (once : months.Nodup)
  (inside : ∀ bucket ∈ buckets, bucket.month ∈ months)
  (free : ∀ bucket ∈ buckets, '|' ∉ bucket.type.toList)

/-- The datasets before they are sorted. -/
def gathered : Dict String DensityDataset :=
  gather seriesKey (newDataset months) (addEvents (monthIndex months)) buckets

/-- The key of a series is its type, a bar and its kind of date. -/
theorem toList_seriesKey (bucket : DensityBucket) :
    (seriesKey bucket).toList = bucket.type.toList ++ '|' :: bucket.datedFrom.toList := by
  simp [seriesKey, toString]

/-- The key tells the type and the provenance. -/
theorem seriesKey_eq_iff (first second : DensityBucket) (one : '|' ∉ first.type.toList)
    (two : '|' ∉ second.type.toList) : seriesKey first = seriesKey second ↔
      first.type = second.type ∧ first.datedFrom = second.datedFrom := by
  constructor
  · intro same
    have written := congrArg String.toList same
    rw [toList_seriesKey, toList_seriesKey] at written
    obtain ⟨types, dates⟩ := divided_first '|' _ _ _ _ one two written
    exact ⟨String.toList_injective types, String.toList_injective dates⟩
  · rintro ⟨types, dates⟩
    unfold seriesKey
    rw [types, dates]

include free in
/-- The group of a bucket has the buckets of its type and provenance. -/
theorem groupOf_seriesKey (bucket : DensityBucket) (member : bucket ∈ buckets) :
    groupOf seriesKey buckets (seriesKey bucket) = buckets.filter fun other =>
      other.type = bucket.type ∧ other.datedFrom = bucket.datedFrom := by
  apply List.filter_congr
  intro other listed
  rw [decide_eq_decide]
  exact seriesKey_eq_iff other bucket (free other listed) (free bucket member)

include once inside free in
/-- Each dataset is the one of some bucket's type and provenance. -/
theorem mem_gathered_iff (key : String) (dataset : DensityDataset) :
    (key, dataset) ∈ (gathered buckets months).items ↔
      ∃ bucket ∈ buckets, key = seriesKey bucket ∧ dataset = ⟨bucket.type, bucket.datedFrom,
        months.map (eventsOf buckets bucket.type bucket.datedFrom)⟩ := by
  have counted (bucket : DensityBucket) (member : bucket ∈ buckets) :
      (groupOf seriesKey buckets (seriesKey bucket)).foldl (addEvents (monthIndex months))
          (newDataset months bucket) =
        ⟨bucket.type, bucket.datedFrom,
          months.map (eventsOf buckets bucket.type bucket.datedFrom)⟩ := by
    rw [newDataset, foldl_addEvents months once]
    · congr 2
      funext month
      rw [groupOf_seriesKey buckets free bucket member, groupSum, groupOf, List.filter_filter,
        eventsOf]
      congr 2
      apply List.filter_congr
      intro other _
      simp [and_comm, and_left_comm]
    · intro other listed
      exact inside other ((mem_groupOf_iff _ _ _ _).mp listed).1
  rw [gathered, mem_gather_iff]
  constructor
  · rintro ⟨first, rest, group, rfl⟩
    have member := (mem_groupOf_iff seriesKey buckets key first).mp
      (group ▸ List.mem_cons_self)
    obtain ⟨listed, rfl⟩ := member
    exact ⟨first, listed, rfl, by rw [← group, counted first listed]⟩
  · rintro ⟨bucket, listed, rfl, rfl⟩
    have present := (mem_groupOf_iff seriesKey buckets (seriesKey bucket) bucket).mpr ⟨listed, rfl⟩
    cases group : groupOf seriesKey buckets (seriesKey bucket) with
    | nil =>
        rw [group] at present
        exact absurd present List.not_mem_nil
    | cons first rest =>
        obtain ⟨member, key⟩ := (mem_groupOf_iff seriesKey buckets (seriesKey bucket) first).mp
          (group ▸ List.mem_cons_self)
        obtain ⟨types, dates⟩ := (seriesKey_eq_iff first bucket (free first member)
          (free bucket listed)).mp key
        refine ⟨first, rest, rfl, ?_⟩
        rw [← group, ← key, counted first member, types, dates]

include once inside free in
/-- There is a dataset for the type and the kind of date of every bucket. -/
theorem mem_datasets_iff (dataset : DensityDataset) :
    dataset ∈ (drawDensity localeCompare buckets months).datasets ↔
      ∃ bucket ∈ buckets, dataset = ⟨bucket.type, bucket.datedFrom,
        months.map (eventsOf buckets bucket.type bucket.datedFrom)⟩ := by
  change dataset ∈ List.insertionSort _ ((gathered buckets months).items.map Prod.snd) ↔ _
  rw [List.mem_insertionSort, List.mem_map]
  constructor
  · rintro ⟨⟨key, other⟩, member, rfl⟩
    obtain ⟨bucket, listed, _, same⟩ :=
      (mem_gathered_iff buckets months once inside free key other).mp member
    exact ⟨bucket, listed, same⟩
  · rintro ⟨bucket, listed, rfl⟩
    exact ⟨(seriesKey bucket, _), (mem_gathered_iff buckets months once inside free _ _).mpr
      ⟨bucket, listed, rfl, rfl⟩, rfl⟩

include once inside free in
/-- No two datasets have one type and provenance. -/
theorem datasets_once : ((drawDensity localeCompare buckets months).datasets.map
    fun dataset => (dataset.type, dataset.datedFrom)).Nodup := by
  have perm : (drawDensity localeCompare buckets months).datasets.Perm
      ((gathered buckets months).items.map Prod.snd) := List.perm_insertionSort _ _
  rw [(perm.map _).nodup_iff, List.map_map]
  have keys := (gathered buckets months).nodup
  have named : (gathered buckets months).items.map Prod.fst =
      ((gathered buckets months).items.map fun item => (item.2.type, item.2.datedFrom)).map
        fun pair => s!"{pair.1}|{pair.2}" := by
    rw [List.map_map]
    apply List.map_congr_left
    rintro ⟨key, dataset⟩ member
    obtain ⟨bucket, _, rfl, rfl⟩ :=
      (mem_gathered_iff buckets months once inside free key dataset).mp member
    rfl
  rw [named] at keys
  exact keys.of_map _

/-- A dataset has the sum of its buckets in each month. -/
theorem eventsOf_eq_groupSum (type datedFrom month : String) :
    eventsOf buckets type datedFrom month = groupSum DensityBucket.month DensityBucket.count
      (groupOf (fun bucket => (bucket.type, bucket.datedFrom)) buckets (type, datedFrom)) month := by
  unfold eventsOf groupSum groupOf
  rw [List.filter_filter]
  congr 2
  apply List.filter_congr
  intro bucket _
  simp [and_comm, and_left_comm]

include once inside free in
/-- Every event is counted in one dataset and one month. -/
theorem datasets_conserved : ((drawDensity localeCompare buckets months).datasets.map
    fun dataset => dataset.counts.sum).sum = (buckets.map DensityBucket.count).sum := by
  have pairs := datasets_once localeCompare buckets months once inside free
  have told := mem_datasets_iff localeCompare buckets months once inside free
  have shares : (drawDensity localeCompare buckets months).datasets.map
      (fun dataset => dataset.counts.sum) =
        ((drawDensity localeCompare buckets months).datasets.map fun dataset =>
          (dataset.type, dataset.datedFrom)).map
            (groupSum (fun bucket => (bucket.type, bucket.datedFrom)) DensityBucket.count
              buckets) := by
    rw [List.map_map]
    apply List.map_congr_left
    intro dataset member
    obtain ⟨bucket, listed, rfl⟩ := (told dataset).mp member
    have months_all : ∀ other ∈ groupOf (fun bucket : DensityBucket =>
        (bucket.type, bucket.datedFrom)) buckets (bucket.type, bucket.datedFrom),
          other.month ∈ months := fun other group =>
      inside other ((mem_groupOf_iff _ _ _ _).mp group).1
    change (months.map (eventsOf buckets bucket.type bucket.datedFrom)).sum = _
    rw [List.map_congr_left fun month _ =>
      eventsOf_eq_groupSum buckets bucket.type bucket.datedFrom month]
    exact sum_groupSum DensityBucket.month DensityBucket.count months once _ months_all
  rw [shares]
  apply sum_groupSum _ _ _ pairs
  intro bucket listed
  exact List.mem_map.mpr ⟨_, (told _).mpr ⟨bucket, listed, rfl⟩, rfl⟩

end Datasets

section Backfill

variable (localeCompare : String → String → ℤ) (buckets : List DensityBucket)
  (months : List String)

/-- The backfilled months are in order. -/
theorem backfilledMonths_ordered :
    (drawDensity localeCompare buckets months).backfilledMonths.Sublist months := by
  have places : months.zipIdx.map Prod.fst = months := by simp
  have kept := (List.filter_sublist (p := fun entry : String × ℕ =>
    (drawDensity localeCompare buckets months).datasets.any fun dataset =>
      dataset.datedFrom = ledgerBackfill && 0 < dataset.counts.getD entry.2 0)
        (l := months.zipIdx)).map Prod.fst
  rw [places] at kept
  exact kept

/-- A month is backfilled exactly if some backfilled dataset counts in it. -/
theorem mem_backfilledMonths_iff (month : String) :
    month ∈ (drawDensity localeCompare buckets months).backfilledMonths ↔
      ∃ place, months[place]? = some month ∧
        ∃ dataset ∈ (drawDensity localeCompare buckets months).datasets,
          dataset.datedFrom = ledgerBackfill ∧ 0 < dataset.counts.getD place 0 := by
  rw [drawDensity]
  dsimp only
  rw [List.mem_map]
  constructor
  · rintro ⟨⟨_, place⟩, member, rfl⟩
    obtain ⟨listed, held⟩ := List.mem_filter.mp member
    obtain ⟨dataset, drawn, positive⟩ := List.any_eq_true.mp held
    rw [Bool.and_eq_true, decide_eq_true_eq, decide_eq_true_eq] at positive
    exact ⟨place, List.mem_zipIdx_iff_getElem?.mp listed, dataset, drawn, positive⟩
  · rintro ⟨place, found, dataset, drawn, positive⟩
    refine ⟨(month, place), List.mem_filter.mpr ⟨List.mem_zipIdx_iff_getElem?.mpr found, ?_⟩, rfl⟩
    refine List.any_eq_true.mpr ⟨dataset, drawn, ?_⟩
    rw [Bool.and_eq_true, decide_eq_true_eq, decide_eq_true_eq]
    exact positive

end Backfill

section Sorted

variable (buckets : List DensityBucket)
  (dated : ∀ bucket ∈ buckets, ∃ month : CalendarMonth, bucket.month = month.text)

include dated in
theorem counted_eq : (buckets.filter fun bucket => isMonth bucket.month) = buckets := by
  rw [List.filter_eq_self]
  intro bucket member
  obtain ⟨month, text⟩ := dated bucket member
  rw [text]
  exact month.isMonth_text

/-- The months of the buckets in order are those of some bucket, and they are bounded by the first
and the last of them. -/
theorem sorted_bounds (first : String) (rest : List String)
    (sorted : (buckets.map DensityBucket.month).insertionSort (· ≤ ·) = first :: rest) :
    (∀ text ∈ first :: rest, ∃ bucket ∈ buckets, bucket.month = text) ∧
      ∀ bucket ∈ buckets, first ≤ bucket.month ∧
        bucket.month ≤ (first :: rest).getLast (List.cons_ne_nil first rest) := by
  have perm := List.perm_insertionSort (· ≤ ·) (buckets.map DensityBucket.month)
  have order := List.pairwise_insertionSort (· ≤ ·) (buckets.map DensityBucket.month)
  rw [sorted] at perm order
  constructor
  · intro text member
    exact List.mem_map.mp (perm.mem_iff.mp member)
  · intro bucket listed
    have member : bucket.month ∈ first :: rest :=
      perm.mem_iff.mpr (List.mem_map.mpr ⟨bucket, listed, rfl⟩)
    constructor
    · rcases List.mem_cons.mp member with same | inside
      · exact same.ge
      · exact (List.pairwise_cons.mp order).1 _ inside
    · exact order.rel_getLast member

end Sorted

section Drawn

variable (localeCompare : String → String → ℤ) (buckets : List DensityBucket)
  (dated : ∀ bucket ∈ buckets, ∃ month : CalendarMonth, bucket.month = month.text)
  (free : ∀ bucket ∈ buckets, '|' ∉ bucket.type.toList)
  (first last : CalendarMonth) (calendar : List CalendarMonth)
  (numbers : calendar.map CalendarMonth.number =
    List.range' first.number (last.number + 1 - first.number))
  (earliest : ∃ bucket ∈ buckets, bucket.month = first.text)
  (latest : ∃ bucket ∈ buckets, bucket.month = last.text)
  (bounds : ∀ bucket ∈ buckets, first.text ≤ bucket.month ∧ bucket.month ≤ last.text)

include dated numbers bounds in
theorem months_inside : ∀ bucket ∈ buckets, bucket.month ∈ calendar.map CalendarMonth.text := by
  intro bucket listed
  obtain ⟨month, text⟩ := dated bucket listed
  obtain ⟨after, before⟩ := bounds bucket listed
  rw [text, CalendarMonth.text_le_iff] at after before
  rw [text]
  exact List.mem_map.mpr ⟨month, ((months_of_range calendar _ _ numbers).2 month).mpr
    ⟨after, before⟩, rfl⟩

include numbers in
/-- No month is listed twice. -/
theorem months_once : (calendar.map CalendarMonth.text).Nodup := by
  apply List.Nodup.map CalendarMonth.text_injective
  refine (months_of_range calendar _ _ numbers).1.imp ?_
  rintro month _ less rfl
  exact lt_irrefl _ less

include dated free numbers earliest latest bounds in
/-- The drawing of the buckets obeys the law of the density. -/
theorem drawDensity_law :
    DensityLaw buckets
      (drawDensity localeCompare buckets (calendar.map CalendarMonth.text)) := by
  have once := months_once first last calendar numbers
  have inside := months_inside buckets dated first last calendar numbers bounds
  have told := mem_datasets_iff localeCompare buckets _ once inside free
  obtain ⟨increasing, range⟩ := months_of_range calendar _ _ numbers
  constructor
  · refine ⟨calendar, rfl, increasing, ?_⟩
    intro month
    rw [range]
    constructor
    · rintro ⟨after, before⟩
      exact ⟨⟨first, earliest, after⟩, last, latest, before⟩
    · rintro ⟨⟨start, ⟨one, listed, text⟩, after⟩, stop, ⟨two, member, label⟩, before⟩
      have low := (bounds one listed).1
      have high := (bounds two member).2
      rw [text, CalendarMonth.text_le_iff] at low
      rw [label, CalendarMonth.text_le_iff] at high
      exact ⟨low.trans after, before.trans high⟩
  · exact datasets_once localeCompare buckets _ once inside free
  · intro type datedFrom
    constructor
    · rintro ⟨dataset, drawn, rfl, rfl⟩
      obtain ⟨bucket, listed, rfl⟩ := (told dataset).mp drawn
      exact ⟨bucket, listed, rfl, rfl⟩
    · rintro ⟨bucket, listed, rfl, rfl⟩
      exact ⟨_, (told _).mpr ⟨bucket, listed, rfl⟩, rfl, rfl⟩
  · intro dataset drawn
    obtain ⟨bucket, _, rfl⟩ := (told dataset).mp drawn
    rfl
  · exact datasets_conserved localeCompare buckets _ once inside free
  · exact backfilledMonths_ordered localeCompare buckets _
  · exact mem_backfilledMonths_iff localeCompare buckets _

end Drawn

/-- Without buckets there is nothing to draw. -/
theorem densityLaw_nil : DensityLaw [] ⟨[], [], []⟩ := by
  constructor
  · exact ⟨[], rfl, List.Pairwise.nil, by simp⟩
  · exact List.nodup_nil
  · simp
  · simp
  · rfl
  · exact List.Sublist.refl []
  · simp

/-- The loop over the months ends, and the density series counts every event once. -/
theorem ledgerDensitySeries_law (localeCompare : String → String → ℤ)
    (buckets : List DensityBucket)
    (dated : ∀ bucket ∈ buckets, ∃ month : CalendarMonth, bucket.month = month.text)
    (free : ∀ bucket ∈ buckets, '|' ∉ bucket.type.toList) :
    ∃ series enough, (∀ fuel, enough ≤ fuel →
      ledgerDensitySeries localeCompare fuel (some buckets) = some series) ∧
        DensityLaw buckets series := by
  have counted := counted_eq buckets dated
  cases sorted : (buckets.map DensityBucket.month).insertionSort (· ≤ ·) with
  | nil =>
      refine ⟨⟨[], [], []⟩, 0, ?_, ?_⟩
      · intro fuel _
        unfold ledgerDensitySeries
        dsimp only [Option.getD_some]
        rw [counted, sorted]
      · have none : buckets = [] := by
          have perm := List.perm_insertionSort (· ≤ ·) (buckets.map DensityBucket.month)
          rw [sorted] at perm
          exact List.map_eq_nil_iff.mp perm.nil_eq.symm
        rw [none]
        exact densityLaw_nil
  | cons head rest =>
      obtain ⟨held, bounds⟩ := sorted_bounds buckets head rest sorted
      obtain ⟨one, early, atHead⟩ := held head List.mem_cons_self
      obtain ⟨two, late, atLast⟩ := held _ (List.getLast_mem (List.cons_ne_nil head rest))
      obtain ⟨first, firstText⟩ := dated one early
      obtain ⟨last, lastText⟩ := dated two late
      have headText : head = first.text := atHead.symm.trans firstText
      have endText : (head :: rest).getLast (List.cons_ne_nil head rest) = last.text :=
        atLast.symm.trans lastText
      rw [endText] at bounds
      rw [headText] at bounds
      have order : first.number ≤ last.number := by
        rw [← CalendarMonth.text_le_iff, ← firstText]
        exact (bounds one early).2
      obtain ⟨calendar, _, numbers⟩ := monthLoop_eq (last.number + 1) first last order (by omega)
      refine ⟨_, last.number + 1, ?_, drawDensity_law localeCompare buckets dated free first last
        calendar numbers ⟨one, early, firstText⟩ ⟨two, late, lastText⟩ bounds⟩
      intro fuel enough
      obtain ⟨other, looped, same⟩ := monthLoop_eq fuel first last order (by omega)
      have equal : other = calendar :=
        List.map_injective_iff.mpr CalendarMonth.number_injective (same.trans numbers.symm)
      unfold ledgerDensitySeries
      dsimp only [Option.getD_some]
      rw [counted, sorted]
      dsimp only
      rw [endText, headText, first.monthNumbers_text, looped, equal]
      rfl

/-- The events of two months around a new year are counted. -/
theorem ledgerDensitySeries_newYear : ∃ series enough, (∀ fuel, enough ≤ fuel →
    ledgerDensitySeries (fun _ _ => 0) fuel (some
      [⟨"2026-01", "minted", "groovemap", some 2⟩,
        ⟨"2025-12", "minted", "groovemap", some 3⟩]) = some series) ∧
    DensityLaw [⟨"2026-01", "minted", "groovemap", some 2⟩,
      ⟨"2025-12", "minted", "groovemap", some 3⟩] series := by
  apply ledgerDensitySeries_law
  · intro bucket member
    rcases List.mem_cons.mp member with rfl | member
    · exact ⟨⟨2026, 1, by decide, by decide, by decide, by decide⟩, by decide +kernel⟩
    · rw [List.mem_singleton.mp member]
      exact ⟨⟨2025, 12, by decide, by decide, by decide, by decide⟩, by decide +kernel⟩
  · decide +kernel

end OperationsConsole.Browser
