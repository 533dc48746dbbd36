/-
This file shows that `shape_queues` regroups the samples of its series without a loss.
The samples of a queue at one time become one point, with a value for each requested field.
-/

import Mathlib.Data.List.Sort
import Mathlib.Data.Set.List
import OperationsConsole.History.MergedValues
import OperationsConsole.History.QueueHistory
import OperationsConsole.Library.Listing

namespace OperationsConsole.History

open Library

section Order

instance : Std.Total textBefore where
  total first second := List.le_total (first.map Symbol.code) (second.map Symbol.code)

instance : IsTrans PyText textBefore where
  trans _ _ _ one two := List.le_trans one two

/-- The texts of sorted labels come in the order of their code points. -/
theorem sortLabels_texts (labels : List Label) (names : List PyText)
    (done : sortLabels labels = .ok (names.map .text)) : names.Pairwise textBefore := by
  have perm := sortLabels_perm labels _ done
  obtain ⟨texts, rfl⟩ : labels ∈ Set.range (List.map Label.text) := by
    rw [Set.range_list_map]
    intro label member
    obtain ⟨name, _, same⟩ := List.mem_map.mp (perm.mem_iff.mpr member)
    exact ⟨name, same⟩
  unfold sortLabels at done
  split at done
  · rw [← List.map_insertionSort textBefore labelBefore .text texts fun _ _ _ _ => Iff.rfl] at done
    rw [← List.map_injective_iff.mpr (fun _ _ => Label.text.inj) (Except.ok.inj done)]
    exact List.pairwise_insertionSort _ _
  · cases done

/-- An instant of a number has no place. -/
def atTime (time : ℚ) : Instant := ⟨.finite time, none⟩

/-- The times of dated points are numbers in order, and each stands once. -/
theorem timesOf_eq (python : Python) (points : Points)
    (finite : ∀ instant, (points.get? instant).isSome = true → ∃ time, instant = atTime time) :
    ∃ times : List ℚ, timesOf python points = times.map atTime ∧ times.Pairwise (· < ·) := by
  obtain ⟨keys, same⟩ : points.items.map Prod.fst ∈ Set.range (List.map atTime) := by
    rw [Set.range_list_map]
    intro instant member
    obtain ⟨time, rfl⟩ := finite instant ((mem_keys_iff points instant).mp member)
    exact ⟨time, rfl⟩
  have once : keys.Nodup := by
    have nodup := points.nodup
    rw [← same] at nodup
    exact List.Nodup.of_map _ nodup
  have numbers : ((keys.map atTime).any fun instant => instant.time = .nan) = false := by
    rw [List.any_eq_false]
    intro instant member
    obtain ⟨time, _, rfl⟩ := List.mem_map.mp member
    simp [atTime]
  have compare (first second : ℚ) :
      first ≤ second ↔ (atTime second).time.lt (atTime first).time = false := by
    rw [← not_lt]
    exact decide_eq_false_iff_not.symm
  refine ⟨keys.insertionSort (· ≤ ·), ?_, ?_⟩
  · unfold timesOf inOrder
    rw [← same, numbers, if_neg Bool.false_ne_true, List.map_insertionSort (· ≤ ·)
      (fun first second : Instant => second.time.lt first.time = false) atTime keys
      fun first _ second _ => compare first second]
  · exact insertionSort_strict keys once

end Order

section Purpose

variable (python : Python) (fields : List String) (results : List (String × List Json))

/-- A series of a field has a raw sample of a queue at a time. -/
def HasSample (field : String) (queue : PyText) (time : Double) (raw : Json) : Prop :=
  ∃ entry ∈ allSeries results, entry.1 = field ∧ labelOf "queue" entry.2 = .text queue ∧
    ∃ items, (valuesOf entry.2).iterate = .ok items ∧
      ∃ item ∈ items, ∃ ts, item.unpack = .ok (ts, raw) ∧ python.toFloat ts = .ok time

/-- A field has at most one sample of a queue at a time. -/
def AtMostOne : Prop :=
  ∀ field queue time raw other, HasSample python results field queue time raw →
    HasSample python results field queue time other → raw = other

/-- A value that cannot be read or is not finite is dropped. -/
def finiteValue (raw : Json) : Option ℚ :=
  match python.toFloat raw with
  | .ok (.finite value) => some value
  | _ => none

/-- A point shows the requested fields at a time. -/
structure PointShows (queue : PyText) (time : ℚ) (point : DataPoint) : Prop where
  timestamp : point.timestamp = python.isoformat time
  requested : point.values.map Prod.fst = fields
  present : ∀ item ∈ point.values, ∀ raw,
    HasSample python results item.1 queue (.finite time) raw → item.2 = finiteValue python raw
  missing : ∀ item ∈ point.values,
    (∀ raw, ¬HasSample python results item.1 queue (.finite time) raw) → item.2 = none

/-- The points of a queue are at the times of its samples, in order. -/
def QueueShows (queue : QueueSeries) : Prop :=
  ∃ times : List ℚ, times.Pairwise (· < ·) ∧
    (∀ time, (∃ value ∈ times, time = .finite value) ↔
      ∃ field raw, HasSample python results field queue.queueName time raw) ∧
    List.Forall₂ (PointShows python fields results queue.queueName) times queue.dataPoints

def isLabelled (series : Json) : Bool :=
  match labelOf "queue" series with
  | .null => false
  | _ => true

/-- The series without the label are left out. -/
def labelledOnly : List (String × List Json) :=
  results.map fun result => (result.1, result.2.filter isLabelled)

/-- The series of the queues are regrouped without a loss. -/
structure Regrouped (queues dlqs : List QueueSeries) : Prop where
  labels : ∀ name, name ∈ (queues ++ dlqs).map QueueSeries.queueName ↔
    ∃ entry ∈ allSeries results, labelOf "queue" entry.2 = .text name
  once : ((queues ++ dlqs).map QueueSeries.queueName).Nodup
  live : ∀ queue ∈ queues, ¬literal ".dlq" <:+ queue.queueName
  dead : ∀ queue ∈ dlqs, literal ".dlq" <:+ queue.queueName
  liveSorted : (queues.map QueueSeries.queueName).Pairwise textBefore
  deadSorted : (dlqs.map QueueSeries.queueName).Pairwise textBefore
  points : ∀ queue ∈ queues ++ dlqs, QueueShows python fields results queue
  unlabelled : shapeQueues python fields (labelledOnly results) = .ok (queues, dlqs)

end Purpose

section Samples

variable (python : Python) (fields : List String) (results : List (String × List Json))

theorem number_eq_ok (raw : Json) (value : Option ℚ) (done : python.number raw = .ok value) :
    value = finiteValue python raw := by
  unfold Python.number at done
  unfold finiteValue
  split at done
  · rename_i read
    rw [read, ← Except.ok.inj done]
  · rename_i number infinite read
    rw [read, ← Except.ok.inj done]
    cases number with
    | finite value => exact absurd rfl (infinite value)
    | infinite negative => rfl
    | nan => rfl
  · rename_i read
    rw [read, ← Except.ok.inj done]
  · rename_i read
    rw [read, ← Except.ok.inj done]
  · cases done

theorem labelled_text_iff (name : PyText) (series : Json) :
    Labelled "queue" (.text name) series ↔ labelOf "queue" series = .text name := by
  unfold Labelled
  rw [hash_eq_text_iff]
  constructor
  · intro both
    exact both.2
  · intro same
    exact ⟨by rw [same]; exact Json.noConfusion, same⟩

/-- A number has no place. -/
theorem instant_eq_atTime (place : ℕ × ℕ) (ts : Json) (time : ℚ)
    (timed : python.toFloat ts = .ok (.finite time)) :
    python.instant place ts = .ok (atTime time) := by
  unfold Python.instant
  rw [timed]
  change Except.ok _ = Except.ok _
  congr 2

/-- The samples that are told of a queue at a time are the raw ones with their numbers. -/
theorem told_iff (shaped : ∀ entry ∈ allSeries results, QueueShaped python entry.2)
    (name : PyText) (time : ℚ) (field : String) (value : Option ℚ) :
    (∃ one ∈ samplesAt (toldOf python "queue" (.text name) (allSeries results).zipIdx)
        (atTime time) field, one.value = value) ↔
      ∃ raw, HasSample python results field name (.finite time) raw ∧
        python.number raw = .ok value := by
  simp only [mem_samplesAt_iff]
  unfold toldOf
  constructor
  · rintro ⟨one, ⟨member, instant, rfl⟩, rfl⟩
    obtain ⟨series, listed, inside⟩ := List.mem_flatMap.mp member
    obtain ⟨numbered, held⟩ := List.mem_filter.mp listed
    have entry := List.fst_mem_of_mem_zipIdx numbered
    have labelled := (hasLabel_iff "queue" (.text name) series.1.2).mp held
    have shape := (shaped series.1 entry).mergeable
    obtain ⟨items, iterated, item, among, made⟩ := (mem_toldBy_iff python series
      shape.keyed.fields (shape.valued labelled.1) one).mp inside
    obtain ⟨ts, raw, unpacked, number, timed, own⟩ :=
      (sample_eq_ok_iff python _ _ item.1 one).mp made
    have time' := time_of_instant python _ ts _ timed
    rw [instant] at time'
    exact ⟨raw, ⟨series.1, entry, own.symm, (labelled_text_iff name series.1.2).mp labelled, items,
      iterated, item.1, List.fst_mem_of_mem_zipIdx among, ts, unpacked, time'⟩, number⟩
  · rintro ⟨raw, ⟨entry, member, rfl, named, items, iterated, item, listed, ts, unpacked, timed⟩,
      number⟩
    have labelled := (labelled_text_iff name entry.2).mpr named
    have shape := (shaped entry member).mergeable
    obtain ⟨index, found⟩ := List.mem_iff_getElem?.mp member
    obtain ⟨place, stands⟩ := List.mem_iff_getElem?.mp listed
    have made := (sample_eq_ok_iff python entry.1 (index, place) item
      ⟨entry.1, atTime time, value⟩).mpr
        ⟨ts, raw, unpacked, number, instant_eq_atTime python _ ts time timed, rfl⟩
    refine ⟨⟨entry.1, atTime time, value⟩, ⟨List.mem_flatMap.mpr ⟨(entry, index), ?_, ?_⟩, rfl,
      rfl⟩, rfl⟩
    · exact List.mem_filter.mpr ⟨List.mk_mem_zipIdx_iff_getElem?.mpr found,
        (hasLabel_iff "queue" (.text name) entry.2).mpr labelled⟩
    · exact (mem_toldBy_iff python (entry, index) shape.keyed.fields (shape.valued labelled.1)
        _).mpr ⟨items, iterated, (item, place), List.mk_mem_zipIdx_iff_getElem?.mpr stands, made⟩

/-- Every raw sample has a number. -/
theorem HasSample.numbered (shaped : ∀ entry ∈ allSeries results, QueueShaped python entry.2)
    (field : String) (name : PyText) (time : Double) (raw : Json)
    (has : HasSample python results field name time raw) :
    python.number raw = .ok (finiteValue python raw) := by
  obtain ⟨entry, member, _, named, items, iterated, item, listed, ts, unpacked, timed⟩ := has
  have labelled := (labelled_text_iff name entry.2).mpr named
  obtain ⟨others, same, sampled⟩ := (shaped entry member).mergeable.valued labelled.1
  rw [Except.ok.inj (iterated.symm.trans same)] at listed
  obtain ⟨_, _, apart, _, value, numbered⟩ := (sampled item listed).pair
  obtain ⟨_, rfl⟩ := Prod.mk.inj (Except.ok.inj (unpacked.symm.trans apart))
  rw [numbered, number_eq_ok python raw value numbered]

end Samples

section Regrouping

variable (python : Python) (fields : List String) (results : List (String × List Json))

theorem dataPoint_eq_ok (points : Points) (time : ℚ) (point : DataPoint)
    (done : dataPoint python fields points (atTime time) = .ok point) :
    point = ⟨python.isoformat time, fields.map fun field =>
      (field, (valueAt points (atTime time) field).join)⟩ := by
  unfold dataPoint at done
  obtain ⟨stamp, written, done⟩ := (bind_eq_ok_iff _ _ _).mp done
  have dated : stamp = python.isoformat time := by
    unfold Python.iso atTime at written
    dsimp only at written
    split at written
    · exact (Except.ok.inj written).symm
    · cases written
  rw [← Except.ok.inj done, dated]
  rfl

/-- A point of a queue shows the samples at its time. -/
theorem pointShows_of_merged (shaped : ∀ entry ∈ allSeries results, QueueShaped python entry.2)
    (single : AtMostOne python results) (name : PyText) (points : Points)
    (told : points = gatherPoints
      (toldOf python "queue" (.text name) (allSeries results).zipIdx)) (time : ℚ) :
    PointShows python fields results name time
      ⟨python.isoformat time, fields.map fun field =>
        (field, (valueAt points (atTime time) field).join)⟩ := by
  have read (field : String) := told_iff python results shaped name time field
  rw [told]
  simp only [valueAt_gatherPoints]
  refine ⟨rfl, ?_, ?_, ?_⟩
  · rw [List.map_map]
    exact List.map_id _
  · intro item member raw has
    obtain ⟨field, _, rfl⟩ := List.mem_map.mp member
    have numbered := has.numbered python results shaped
    obtain ⟨one, inside, _⟩ := (read field _).mpr ⟨raw, has, numbered⟩
    dsimp only
    obtain ⟨last, ends⟩ := Option.isSome_iff_exists.mp
      (List.getLast?_isSome.mpr (List.ne_nil_of_mem inside))
    obtain ⟨other, also, number⟩ := (read field last.value).mp
      ⟨last, List.mem_of_getLast? ends, rfl⟩
    rw [← single field name (.finite time) raw other has also, numbered] at number
    rw [ends, Except.ok.inj number]
    rfl
  · intro item member none
    obtain ⟨field, _, rfl⟩ := List.mem_map.mp member
    dsimp only
    cases ends : (samplesAt (toldOf python "queue" (.text name) (allSeries results).zipIdx)
        (atTime time) field).getLast? with
    | none => rfl
    | some last =>
        obtain ⟨raw, has, _⟩ := (read field last.value).mp ⟨last, List.mem_of_getLast? ends, rfl⟩
        exact absurd has (none raw)

/-- The times of a queue are those of its samples. -/
theorem holds_iff (name : PyText) (time : Double) :
    (∃ entry ∈ allSeries results, Labelled "queue" (.text name) entry.2 ∧
        Holds python time entry.2) ↔
      ∃ field raw, HasSample python results field name time raw := by
  simp only [labelled_text_iff]
  constructor
  · rintro ⟨entry, member, named, items, iterated, item, listed, ts, raw, unpacked, timed⟩
    exact ⟨entry.1, raw, entry, member, rfl, named, items, iterated, item, listed, ts, unpacked,
      timed⟩
  · rintro ⟨field, raw, entry, member, _, named, items, iterated, item, listed, ts, unpacked, timed⟩
    exact ⟨entry, member, named, items, iterated, item, listed, ts, raw, unpacked, timed⟩

/-- A told time that is a number is one without a place. -/
theorem atTime_of_told (shaped : ∀ entry ∈ allSeries results, QueueShaped python entry.2)
    (name : PyText) (instant : Instant) (dated : Dated python instant.time)
    (present : ((gatherPoints (toldOf python "queue" (.text name)
      (allSeries results).zipIdx)).get? instant).isSome = true) :
    ∃ time, instant = atTime time := by
  obtain ⟨one, member, rfl⟩ := (get?_gatherPoints_isSome_iff _ _).mp present
  obtain ⟨series, listed, inside⟩ := List.mem_flatMap.mp member
  obtain ⟨numbered, held⟩ := List.mem_filter.mp listed
  have labelled := (hasLabel_iff "queue" (.text name) series.1.2).mp held
  have shape := (shaped series.1 (List.fst_mem_of_mem_zipIdx numbered)).mergeable
  obtain ⟨items, _, item, _, made⟩ := (mem_toldBy_iff python series shape.keyed.fields
    (shape.valued labelled.1) one).mp inside
  obtain ⟨ts, _, _, _, timed, _⟩ := (sample_eq_ok_iff python _ _ item.1 one).mp made
  have read := time_of_instant python _ ts _ timed
  cases time : one.instant.time with
  | finite value =>
      rw [time] at read
      rw [instant_eq_atTime python _ ts value read] at timed
      exact ⟨value, (Except.ok.inj timed).symm⟩
  | infinite negative =>
      rw [time] at dated
      exact absurd dated (Returns.error _)
  | nan =>
      rw [time] at dated
      exact absurd dated (Returns.error _)

theorem queueShows_of_shaped (shaped : ∀ entry ∈ allSeries results, QueueShaped python entry.2)
    (single : AtMostOne python results) (merged : Merged)
    (done : merge python "queue" results = .ok merged) (label : Label)
    (present : (merged.get? label).isSome = true) (queue : QueueSeries)
    (made : shapeQueue python fields merged label = .ok queue) :
    QueueShows python fields results queue := by
  have faithful := faithful_merge python "queue" results merged done
  have mergeable (entry : String × Json) (member : entry ∈ allSeries results) :=
    (shaped entry member).mergeable
  have dates := (mergedQueues_iff python results merged faithful mergeable).mpr shaped
  have named := shapeQueue_name python fields merged label queue made
  subst named
  obtain ⟨⟨key, points⟩, found⟩ := Option.isSome_iff_exists.mp present
  have own : mergedPoints merged (.text queue.queueName) = points := by
    unfold mergedPoints
    rw [found]
    rfl
  have told := own.symm.trans (faithful.points (.text queue.queueName))
  have finite (instant : Instant) (stored : (points.get? instant).isSome = true) :
      ∃ time, instant = atTime time := by
    refine atTime_of_told python results shaped queue.queueName instant
      (dates.dated _ key points found instant stored) ?_
    rw [← told]
    exact stored
  obtain ⟨times, same, ordered⟩ := timesOf_eq python points finite
  refine ⟨times, ordered, ?_, ?_⟩
  · intro time
    rw [← holds_iff python results, ← faithful.times mergeable _ key points found]
    simp only [← mem_timesOf_iff python, same, List.mem_map]
    constructor
    · rintro ⟨value, member, rfl⟩
      exact ⟨atTime value, rfl, value, member, rfl⟩
    · rintro ⟨_, rfl, value, member, rfl⟩
      exact ⟨value, member, rfl⟩
  · unfold shapeQueue at made
    obtain ⟨dataPoints, mapped, ends⟩ := (bind_eq_ok_iff _ _ _).mp made
    rw [← Except.ok.inj ends]
    change (timesOf python (mergedPoints merged _)).mapM
      (dataPoint python fields (mergedPoints merged _)) = _ at mapped
    rw [own, same, mapM_eq_ok_iff, List.forall₂_map_left_iff] at mapped
    refine mapped.imp ?_
    intro time point one
    rw [dataPoint_eq_ok python fields points time point one]
    exact pointShows_of_merged python fields results shaped single _ points told time

/-- A series without the label leaves the merged series as they are. -/
theorem mergeSeries_unlabelled (merged : Merged) (series : (String × Json) × ℕ)
    (keyed : Keyed series.1.2) (unlabelled : isLabelled series.1.2 = false) :
    mergeSeries python "queue" merged series = .ok merged := by
  refine (mergeSeries_eq_ok_iff python "queue" _ _ _).mpr ⟨keyed, .inl ⟨?_, rfl⟩⟩
  unfold isLabelled at unlabelled
  split at unlabelled
  · assumption
  · cases unlabelled

theorem allSeries_labelledOnly :
    allSeries (labelledOnly results) =
      (allSeries results).filter fun entry => isLabelled entry.2 := by
  unfold allSeries labelledOnly
  rw [List.flatMap_map, List.filter_flatMap]
  congr 1
  funext result
  rw [List.filter_map]
  rfl

/-- The place of a series does not tell its samples if their times are dates. -/
theorem samplesOf_place (entry : String × Json) (shaped : QueueShaped python entry.2)
    (labelled : labelOf "queue" entry.2 ≠ .null) (index other : ℕ) :
    samplesOf python index entry = samplesOf python other entry := by
  obtain ⟨items, iterated, sampled⟩ := shaped.mergeable.valued labelled
  have values := (Json.get_eq_ok_iff entry.2 "values" (.list []) _).mpr
    ⟨shaped.mergeable.keyed.fields, rfl⟩
  unfold valuesOf at iterated
  unfold samplesOf
  simp only [values, bind, Except.bind, iterated]
  refine mapM_congr _ _ _ ?_
  intro item member
  have listed := List.fst_mem_of_mem_zipIdx member
  obtain ⟨ts, raw, unpacked, ⟨time, timed⟩, _⟩ := (sampled item.1 listed).pair
  have dated := shaped.dated labelled time ⟨items, iterated, item.1, listed, ts, raw, unpacked, timed⟩
  have alike : python.instant (index, item.2) ts = python.instant (other, item.2) ts := by
    cases time with
    | finite value =>
        rw [instant_eq_atTime python _ ts value timed, instant_eq_atTime python _ ts value timed]
    | infinite negative => exact absurd dated (Returns.error _)
    | nan => exact absurd dated (Returns.error _)
  unfold sample
  simp only [unpacked, bind, Except.bind, alike]

/-- The place of a series does not matter. -/
theorem mergeSeries_place (entry : String × Json) (shaped : QueueShaped python entry.2)
    (merged : Merged) (index : ℕ) :
    mergeSeries python "queue" merged (entry, index) =
      mergeSeries python "queue" merged (entry, 0) := by
  have keyed := (keyOf_eq_ok_iff "queue" entry.2 _).mpr ⟨shaped.mergeable.keyed, rfl⟩
  unfold mergeSeries
  rw [keyed]
  change (match labelOf "queue" entry.2 with | .null => _ | key => _) =
    (match labelOf "queue" entry.2 with | .null => _ | key => _)
  split
  · rfl
  · rename_i labelled
    rw [samplesOf_place python entry shaped labelled index 0]

theorem merge_labelledOnly (shaped : ∀ entry ∈ allSeries results, QueueShaped python entry.2) :
    merge python "queue" (labelledOnly results) = merge python "queue" results := by
  let step (merged : Merged) (entry : String × Json) := mergeSeries python "queue" merged (entry, 0)
  have placed (entries : List (String × Json))
      (all : ∀ entry ∈ entries, QueueShaped python entry.2) :
      entries.zipIdx.foldlM (mergeSeries python "queue") .empty = entries.foldlM step .empty :=
    foldlM_zipIdx step (mergeSeries python "queue") entries 0 .empty fun entry member merged index =>
      mergeSeries_place python entry (all entry member) merged index
  unfold merge
  rw [allSeries_labelledOnly, placed _ shaped, placed]
  · generalize allSeries results = entries at shaped
    generalize (Dict.empty : Merged) = start
    induction entries generalizing start with
    | nil => rfl
    | cons entry entries ih =>
        have later (merged : Merged) :=
          ih (fun other member => shaped other (List.mem_cons_of_mem _ member)) merged
        cases held : isLabelled entry.2 with
        | true =>
            rw [List.filter_cons, if_pos held, List.foldlM_cons, List.foldlM_cons]
            congr 1
            funext merged
            exact later merged
        | false =>
            have keyed := (shaped entry List.mem_cons_self).mergeable.keyed
            have skipped : step start entry = .ok start :=
              mergeSeries_unlabelled python start (entry, 0) keyed held
            rw [List.filter_cons, held, if_neg Bool.false_ne_true, List.foldlM_cons, skipped]
            exact later start
  · intro entry member
    exact shaped entry (List.mem_of_mem_filter member)

/-- What the server shapes is regrouped without a loss if no sample stands in the place of another.
-/
theorem regrouped_of_shaped (queues dlqs : List QueueSeries) (single : AtMostOne python results)
    (done : shapeQueues python fields results = .ok (queues, dlqs)) :
    Regrouped python fields results queues dlqs := by
  have shaped := (returns_shapeQueues_iff python fields results).mp ⟨(queues, dlqs), done⟩
  obtain ⟨merged, names, all, one, two, three, same⟩ :=
    (shapeQueues_eq_ok_iff python fields results _).mp done
  obtain ⟨rfl, rfl⟩ := Prod.mk.inj same
  have faithful := faithful_merge python "queue" results merged one
  have perm := sortLabels_perm _ names two
  have titles : names = (all.map QueueSeries.queueName).map .text := by
    rw [List.map_map, ← List.map_id names]
    refine map_eq_of_forall₂ ((mapM_eq_ok_iff _ _ _).mp three) id _ ?_
    intro label queue made
    exact shapeQueue_name python fields merged label queue made
  have parted : ((all.filter fun queue => !isDlq queue) ++ all.filter isDlq).Perm all := by
    have parts := List.filter_append_perm (fun queue => !isDlq queue) all
    simp only [Bool.not_not] at parts
    exact parts
  have nodup : (all.map QueueSeries.queueName).Nodup := by
    have keys := perm.nodup_iff.mpr merged.nodup
    rw [titles] at keys
    exact List.Nodup.of_map _ keys
  have sorted : (all.map QueueSeries.queueName).Pairwise textBefore := by
    rw [titles] at two
    exact sortLabels_texts _ _ two
  refine ⟨?_, ?_, ?_, ?_, ?_, ?_, ?_, ?_⟩
  · intro name
    have listed : Label.text name ∈ names ↔ name ∈ all.map QueueSeries.queueName := by
      rw [titles, List.mem_map_of_injective fun _ _ => Label.text.inj]
    rw [(parted.map _).mem_iff, ← listed, perm.mem_iff, mem_keys_iff, faithful.keys_iff]
    simp only [labelled_text_iff]
  · exact (parted.map _).nodup_iff.mpr nodup
  · intro queue member
    have other := (List.mem_filter.mp member).2
    simpa [isDlq] using other
  · intro queue member
    exact of_decide_eq_true (List.mem_filter.mp member).2
  · exact sorted.sublist (List.filter_sublist.map _)
  · exact sorted.sublist (List.filter_sublist.map _)
  · intro queue member
    obtain ⟨label, listed, made⟩ := mem_of_mapM _ _ _ three queue (parted.mem_iff.mp member)
    exact queueShows_of_shaped python fields results shaped single merged one label
      ((mem_keys_iff merged label).mp (perm.mem_iff.mp listed)) queue made
  · unfold shapeQueues
    rw [merge_labelledOnly python results shaped]
    exact done

end Regrouping

/-- Every set of readable series with at most one sample for a field, a queue and a time is
regrouped by the queues without a loss. -/
theorem shapeQueues_regroups (python : Python) (fields : List String)
    (results : List (String × List Json))
    (shaped : ∀ entry ∈ allSeries results, QueueShaped python entry.2)
    (single : AtMostOne python results) :
    ∃ queues dlqs, shapeQueues python fields results = .ok (queues, dlqs) ∧
      Regrouped python fields results queues dlqs := by
  obtain ⟨⟨queues, dlqs⟩, done⟩ := (returns_shapeQueues_iff python fields results).mpr shaped
  exact ⟨queues, dlqs, done, regrouped_of_shaped python fields results queues dlqs single done⟩

section Witness

/-- This reader knows some numbers, the text for no number, and two dates. -/
def samplePython : Python where
  float text :=
    if text = literal "5" then some (.finite 5)
    else if text = literal "7" then some (.finite 7)
    else if text = literal "NaN" then some .nan
    else none
  nearest := .finite
  sum values := .finite values.sum
  isoformat time := if time = 1000 then "1970-01-01T00:16:40+00:00" else "1970-01-01T00:21:40+00:00"
  undated _ := .valueError
  arrange times := times
  arrangeValues values := values
  arrange_perm _ := .rfl
  arrangeValues_perm _ := .rfl

/-- A dead-letter queue has a number at one time and none at the next. -/
def deadSeries : Json := .dict
  [(literal "metric", .dict [(literal "queue", .text (literal "a.dlq"))]),
    (literal "values", .list [.list [.int 1000, .text (literal "5")],
      .list [.int 1300, .text (literal "NaN")]])]

/-- The series of a dead-letter queue is regrouped. -/
theorem shapeQueues_regroups_dead : ∃ queues dlqs,
    shapeQueues samplePython ["ready"] [("ready", [deadSeries])] = .ok (queues, dlqs) ∧
      Regrouped samplePython ["ready"] [("ready", [deadSeries])] queues dlqs := by
  refine shapeQueues_regroups samplePython ["ready"] [("ready", [deadSeries])] ?_ ?_
  · refine (returns_shapeQueues_iff samplePython ["ready"] _).mp ⟨?_, ?_⟩
    · exact ([], [⟨literal "a.dlq",
        [⟨"1970-01-01T00:16:40+00:00", [("ready", some 5)]⟩,
          ⟨"1970-01-01T00:21:40+00:00", [("ready", none)]⟩]⟩])
    · decide +kernel
  · have read (field : String) (queue : PyText) (time : Double) (raw : Json)
        (has : HasSample samplePython [("ready", [deadSeries])] field queue time raw) :
        (time, raw) = (.finite 1000, .text (literal "5")) ∨
          (time, raw) = (.finite 1300, .text (literal "NaN")) := by
      obtain ⟨entry, one, _, _, items, iterated, item, inside, ts, unpacked, timed⟩ := has
      rw [List.mem_singleton.mp one] at iterated
      rw [← Except.ok.inj iterated] at inside
      rcases List.mem_pair.mp inside with rfl | rfl
      · cases unpacked
        cases timed
        exact .inl rfl
      · cases unpacked
        cases timed
        exact .inr rfl
    have apart : (.finite 1000 : Double) ≠ .finite 1300 := by decide +kernel
    intro field queue time raw other one two
    rcases read field queue time raw one with first | first <;>
      rcases read field queue time other two with second | second <;>
      obtain ⟨rfl, rfl⟩ := Prod.mk.inj first <;>
      obtain ⟨same, rfl⟩ := Prod.mk.inj second
    · rfl
    · exact absurd same apart
    · exact absurd same.symm apart
    · rfl

end Witness

end OperationsConsole.History
