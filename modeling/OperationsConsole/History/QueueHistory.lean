/-
This file embeds the queue history of `history.py` and decides when its route answers.
The answers of the queries can be of any shape.
-/

import OperationsConsole.History.MergedValues

namespace OperationsConsole.History

open Library

/-- A range says how far back it reaches, its step and the window of its rates. -/
structure RangeSpec where
  name : String
  seconds : Nat
  step : String
  window : String

/-- These are the `RANGES`. -/
def ranges : List RangeSpec :=
  [⟨"1h", 3600, "30s", "1m"⟩, ⟨"6h", 6 * 3600, "2m", "2m"⟩, ⟨"24h", 24 * 3600, "5m", "5m"⟩,
    ⟨"7d", 7 * 86400, "30m", "30m"⟩, ⟨"30d", 30 * 86400, "2h", "2h"⟩,
    ⟨"90d", 90 * 86400, "6h", "6h"⟩]

/-- The queries of the queue history have these names. -/
def queueFields : List String :=
  ["messages_ready", "messages_unacknowledged", "messages_total", "consumers", "publish_rate",
    "ack_rate"]

structure DataPoint where
  timestamp : String
  values : List (String × Option ℚ)
  deriving DecidableEq

structure QueueSeries where
  queueName : PyText
  dataPoints : List DataPoint
  deriving DecidableEq

structure QueueHistory where
  range : String
  step : String
  queues : List QueueSeries
  dlqSummary : List QueueSeries
  deriving DecidableEq

/-- A history route answers with a shaped body, or with 503 and a reason. -/
inductive HistoryAnswer (β : Type) where
  | shaped (body : β)
  | unavailable (reason : String)

def isDlq (queue : QueueSeries) : Bool := literal ".dlq" <:+ queue.queueName

section Shaping

variable (python : Python) (fields : List String)

/-- A sort arranges the times, and numbers come in their order. -/
def inOrder (instants : List Instant) : List Instant :=
  if instants.any fun instant => instant.time = .nan then python.arrange instants
  else instants.insertionSort fun first second => second.time.lt first.time = false

def timesOf (points : Points) : List Instant := inOrder python (points.items.map Prod.fst)

def dataPoint (points : Points) (instant : Instant) : Except Raised DataPoint := do
  let timestamp ← python.iso instant.time
  return ⟨timestamp, fields.map fun field =>
    (field, (((points.get? instant).getD .empty).get? field).join)⟩

/-- Only a text has the method `endswith`. -/
def shapeQueue (merged : Merged) (label : Label) : Except Raised QueueSeries := do
  let points := ((merged.get? label).getD (.null, .empty)).2
  let dataPoints ← (timesOf python points).mapM (dataPoint python fields points)
  match label with
  | .text name => return ⟨name, dataPoints⟩
  | _ => .error .attributeError

def shapeQueues (results : List (String × List Json)) :
    Except Raised (List QueueSeries × List QueueSeries) := do
  let merged ← merge python "queue" results
  let names ← sortLabels (merged.items.map Prod.fst)
  let shaped ← names.mapM (shapeQueue python fields merged)
  return (shaped.filter fun queue => !isDlq queue, shaped.filter isDlq)

end Shaping

/-- A response is encoded when it is made. -/
def queueResponse (body : QueueHistory) : Except Raised (HistoryAnswer QueueHistory) :=
  if (body.queues ++ body.dlqSummary).all fun queue => encodable queue.queueName then
    .ok (.shaped body)
  else .error .unicodeEncodeError

def queueHistory (python : Python) (range : RangeSpec)
    (gathered : Except Failure (List (List Json))) :
    Except Raised (HistoryAnswer QueueHistory) :=
  match gathered with
  | .error (.historyUnavailable reason) => .ok (.unavailable reason)
  | .error (.raised exception) => .error exception
  | .ok values => do
      let shaped ← shapeQueues python queueFields (queueFields.zip values)
      queueResponse ⟨range.name, range.step, shaped.1, shaped.2⟩

/-- The queues of a served answer are the queues that are shaped. -/
theorem shaped_of_served (python : Python) (range : RangeSpec) (values : List (List Json))
    (history : QueueHistory)
    (served : queueHistory python range (.ok values) = .ok (.shaped history)) :
    shapeQueues python queueFields (queueFields.zip values) =
      .ok (history.queues, history.dlqSummary) := by
  unfold queueHistory at served
  dsimp only at served
  cases done : shapeQueues python queueFields (queueFields.zip values) with
  | error exception =>
      rw [done] at served
      cases served
  | ok shaped =>
      rw [done] at served
      change queueResponse _ = _ at served
      unfold queueResponse at served
      split at served
      · cases served
        rfl
      · cases served

section Labels

/-- Sorting keeps the labels. -/
theorem sortLabels_perm (labels sorted : List Label) (done : sortLabels labels = .ok sorted) :
    sorted.Perm labels := by
  unfold sortLabels at done
  split at done
  · rw [← Except.ok.inj done]
    exact List.perm_insertionSort _ _
  · cases done

/-- Texts can be sorted. -/
theorem returns_sortLabels (labels : List Label) (texts : ∀ label ∈ labels, isText label = true) :
    Returns (sortLabels labels) := by
  unfold sortLabels
  rw [List.all_eq_true.mpr texts, Bool.true_or, Bool.true_or, if_pos rfl]
  exact Returns.ok _

theorem mem_keys_iff {κ ν : Type} [DecidableEq κ] (dict : Dict κ ν) (key : κ) :
    key ∈ dict.items.map Prod.fst ↔ (dict.get? key).isSome = true := by
  rw [← not_iff_not, ← Dict.get?_eq_none_iff, Bool.not_eq_true, Option.isSome_eq_false_iff,
    Option.isNone_iff_eq_none]

theorem inOrder_perm (python : Python) (instants : List Instant) :
    (inOrder python instants).Perm instants := by
  unfold inOrder
  split
  · exact python.arrange_perm instants
  · exact List.perm_insertionSort _ _

/-- The times of points are the times that have one. -/
theorem mem_timesOf_iff (python : Python) (points : Points) (instant : Instant) :
    instant ∈ timesOf python points ↔ (points.get? instant).isSome = true := by
  unfold timesOf
  rw [(inOrder_perm python _).mem_iff, mem_keys_iff]

/-- Only a text has the hash of a text. -/
theorem hash_eq_text_iff (value : Json) (name : PyText) :
    value.hash = .ok (.text name) ↔ value = .text name := by
  cases value <;> simp [Json.hash]

end Labels

section Exact

variable (python : Python) (fields : List String)

/-- A time of a sample is a date. -/
def Dated (time : Double) : Prop := Returns (python.iso time)

/-- A queue is named by a text, and its samples have dates. -/
structure QueueShaped (series : Json) : Prop where
  mergeable : Mergeable python "queue" series
  named : labelOf "queue" series ≠ .null → ∃ name, labelOf "queue" series = .text name
  dated : labelOf "queue" series ≠ .null → ∀ time, Holds python time series → Dated python time

/-- The points of a queue are shaped exactly if their times are dates. -/
theorem returns_dataPoints_iff (points : Points) :
    Returns ((timesOf python points).mapM (dataPoint python fields points)) ↔
      ∀ instant : Instant, (points.get? instant).isSome = true → Dated python instant.time := by
  rw [returns_mapM_iff]
  refine forall_congr' fun instant => ?_
  rw [mem_timesOf_iff]
  refine imp_congr_right fun _ => ?_
  unfold dataPoint Dated
  rw [Returns.bind_iff]
  constructor
  · rintro ⟨stamp, done, _⟩
    exact ⟨stamp, done⟩
  · rintro ⟨stamp, done⟩
    exact ⟨stamp, done, Returns.pure _⟩

/-- A queue is shaped exactly if its label is a text and its times are dates. -/
theorem returns_shapeQueue_iff (merged : Merged) (label : Label) (key : Json) (points : Points)
    (found : merged.get? label = some (key, points)) :
    Returns (shapeQueue python fields merged label) ↔
      (∃ name, label = .text name) ∧ ∀ instant : Instant, (points.get? instant).isSome = true →
        Dated python instant.time := by
  rw [← returns_dataPoints_iff python fields]
  unfold shapeQueue
  rw [found, Returns.bind_iff]
  constructor
  · rintro ⟨dataPoints, done, ends⟩
    refine ⟨?_, dataPoints, done⟩
    cases label with
    | text name => exact ⟨name, rfl⟩
    | null => exact absurd ends (Returns.error _)
    | number value => exact absurd ends (Returns.error _)
  · rintro ⟨⟨name, rfl⟩, dataPoints, done⟩
    exact ⟨dataPoints, done, Returns.pure _⟩

/-- A queue is named by its label. -/
theorem shapeQueue_name (merged : Merged) (label : Label) (queue : QueueSeries)
    (done : shapeQueue python fields merged label = .ok queue) : label = .text queue.queueName := by
  unfold shapeQueue at done
  obtain ⟨dataPoints, _, ends⟩ := (bind_eq_ok_iff _ _ _).mp done
  cases label with
  | text name => rw [← Except.ok.inj ends]
  | null => cases ends
  | number value => cases ends

/-- The merged queues have dates and are named by texts. -/
structure MergedQueues (merged : Merged) : Prop where
  named : ∀ label, (merged.get? label).isSome = true → ∃ name, label = .text name
  dated : ∀ label key points, merged.get? label = some (key, points) →
    ∀ instant : Instant, (points.get? instant).isSome = true → Dated python instant.time

/-- The merged series are shaped exactly if they are those of queues. -/
theorem returns_shapeMerged_iff (merged : Merged) :
    Returns (sortLabels (merged.items.map Prod.fst) >>= fun names =>
        names.mapM (shapeQueue python fields merged)) ↔ MergedQueues python merged := by
  rw [Returns.bind_iff]
  constructor
  · rintro ⟨names, sorted, returns⟩
    have perm := sortLabels_perm _ names sorted
    have each := (returns_mapM_iff _ names).mp returns
    have shaped (label : Label) (key : Json) (points : Points)
        (found : merged.get? label = some (key, points)) :=
      (returns_shapeQueue_iff python fields merged label key points found).mp
        (each label (perm.mem_iff.mpr ((mem_keys_iff merged label).mpr (by rw [found]; rfl))))
    refine ⟨?_, ?_⟩
    · intro label present
      obtain ⟨⟨key, points⟩, found⟩ := Option.isSome_iff_exists.mp present
      exact (shaped label key points found).1
    · intro label key points found
      exact (shaped label key points found).2
  · rintro ⟨named, dated⟩
    obtain ⟨names, sorted⟩ := returns_sortLabels (merged.items.map Prod.fst) (by
      intro label member
      obtain ⟨name, rfl⟩ := named label ((mem_keys_iff merged label).mp member)
      rfl)
    have perm := sortLabels_perm _ names sorted
    refine ⟨names, sorted, (returns_mapM_iff _ names).mpr ?_⟩
    intro label member
    have present := (mem_keys_iff merged label).mp (perm.mem_iff.mp member)
    obtain ⟨⟨key, points⟩, found⟩ := Option.isSome_iff_exists.mp present
    exact (returns_shapeQueue_iff python fields merged label key points found).mpr
      ⟨named label present, dated label key points found⟩

/-- The merged queues are those of the series. -/
theorem mergedQueues_iff (results : List (String × List Json)) (merged : Merged)
    (faithful : Faithful python "queue" (allSeries results).zipIdx merged)
    (mergeable : ∀ entry ∈ allSeries results, Mergeable python "queue" entry.2) :
    MergedQueues python merged ↔ ∀ entry ∈ allSeries results, QueueShaped python entry.2 := by
  constructor
  · rintro ⟨named, dated⟩ entry member
    have shape := mergeable entry member
    obtain ⟨label, hashed⟩ := shape.hashed
    refine ⟨shape, ?_, ?_⟩
    · intro labelled
      obtain ⟨name, rfl⟩ := named label
        ((faithful.keys_iff label).mpr ⟨entry, member, labelled, hashed⟩)
      exact ⟨name, (hash_eq_text_iff _ name).mp hashed⟩
    · intro labelled time held
      have present := (faithful.keys_iff label).mpr ⟨entry, member, labelled, hashed⟩
      obtain ⟨⟨key, points⟩, found⟩ := Option.isSome_iff_exists.mp present
      obtain ⟨instant, rfl, stored⟩ := (faithful.times mergeable label key points found time).mpr
        ⟨entry, member, ⟨labelled, hashed⟩, held⟩
      exact dated label key points found instant stored
  · intro shaped
    refine ⟨?_, ?_⟩
    · intro label present
      obtain ⟨entry, member, labelled, hashed⟩ := (faithful.keys_iff label).mp present
      obtain ⟨name, same⟩ := (shaped entry member).named labelled
      rw [same] at hashed
      exact ⟨name, (Except.ok.inj hashed).symm⟩
    · intro label key points found instant present
      obtain ⟨entry, member, ⟨labelled, _⟩, held⟩ :=
        (faithful.times mergeable label key points found instant.time).mp ⟨instant, rfl, present⟩
      exact (shaped entry member).dated labelled instant.time held

/-- The queues are merged, sorted, shaped and parted. -/
theorem shapeQueues_eq_ok_iff (results : List (String × List Json))
    (queues : List QueueSeries × List QueueSeries) :
    shapeQueues python fields results = .ok queues ↔
      ∃ merged names shaped, merge python "queue" results = .ok merged ∧
        sortLabels (merged.items.map Prod.fst) = .ok names ∧
        names.mapM (shapeQueue python fields merged) = .ok shaped ∧
        queues = (shaped.filter fun queue => !isDlq queue, shaped.filter isDlq) := by
  unfold shapeQueues
  constructor
  · intro done
    obtain ⟨merged, one, done⟩ := (bind_eq_ok_iff _ _ _).mp done
    obtain ⟨names, two, done⟩ := (bind_eq_ok_iff _ _ _).mp done
    obtain ⟨shaped, three, done⟩ := (bind_eq_ok_iff _ _ _).mp done
    exact ⟨merged, names, shaped, one, two, three, (Except.ok.inj done).symm⟩
  · rintro ⟨merged, names, shaped, one, two, three, rfl⟩
    exact (bind_eq_ok_iff _ _ _).mpr ⟨merged, one, (bind_eq_ok_iff _ _ _).mpr
      ⟨names, two, (bind_eq_ok_iff _ _ _).mpr ⟨shaped, three, rfl⟩⟩⟩

/-- The queues are shaped exactly if each of their series is. -/
theorem returns_shapeQueues_iff (results : List (String × List Json)) :
    Returns (shapeQueues python fields results) ↔
      ∀ entry ∈ allSeries results, QueueShaped python entry.2 := by
  constructor
  · rintro ⟨queues, done⟩
    obtain ⟨merged, names, shaped, one, two, three, _⟩ :=
      (shapeQueues_eq_ok_iff python fields results queues).mp done
    have mergeable := (returns_merge_iff python "queue" results).mp ⟨merged, one⟩
    exact (mergedQueues_iff python results merged (faithful_merge python "queue" results merged one)
      mergeable).mp ((returns_shapeMerged_iff python fields merged).mp
        ⟨shaped, (bind_eq_ok_iff _ _ _).mpr ⟨names, two, three⟩⟩)
  · intro shapes
    have mergeable (entry : String × Json) (member : entry ∈ allSeries results) :=
      (shapes entry member).mergeable
    obtain ⟨merged, one⟩ := (returns_merge_iff python "queue" results).mpr mergeable
    obtain ⟨shaped, done⟩ := (returns_shapeMerged_iff python fields merged).mpr
      ((mergedQueues_iff python results merged (faithful_merge python "queue" results merged one)
        mergeable).mpr shapes)
    obtain ⟨names, two, three⟩ := (bind_eq_ok_iff _ _ _).mp done
    exact ⟨_, (shapeQueues_eq_ok_iff python fields results _).mpr
      ⟨merged, names, shaped, one, two, three, rfl⟩⟩

/-- The name of a queue has no lone surrogate. -/
def NameEncodable (series : Json) : Prop :=
  ∀ name, labelOf "queue" series = .text name → encodable name = true

/-- The names of the shaped queues are those of their series. -/
theorem shapedNames_iff (results : List (String × List Json))
    (queues : List QueueSeries × List QueueSeries)
    (done : shapeQueues python fields results = .ok queues) :
    (∀ queue ∈ queues.1 ++ queues.2, encodable queue.queueName = true) ↔
      ∀ entry ∈ allSeries results, NameEncodable entry.2 := by
  obtain ⟨merged, names, shaped, one, two, three, rfl⟩ :=
    (shapeQueues_eq_ok_iff python fields results queues).mp done
  have faithful := faithful_merge python "queue" results merged one
  have perm := sortLabels_perm _ names two
  have all (queue : QueueSeries) : queue ∈ (shaped.filter fun queue => !isDlq queue) ++
      shaped.filter isDlq ↔ queue ∈ shaped := by
    rw [List.mem_append, List.mem_filter, List.mem_filter]
    cases isDlq queue <;> simp
  constructor
  · intro encodables entry member name same
    have present : (merged.get? (.text name)).isSome = true :=
      (faithful.keys_iff _).mpr ⟨entry, member, by rw [same]; simp, by rw [same]; rfl⟩
    obtain ⟨queue, listed, made⟩ := mapM_mem _ _ _ three (.text name)
      (perm.mem_iff.mpr ((mem_keys_iff merged _).mpr present))
    have named := shapeQueue_name python fields merged _ queue made
    rw [Label.text.inj named]
    exact encodables queue ((all queue).mpr listed)
  · intro encodables queue member
    obtain ⟨label, listed, made⟩ := mem_of_mapM _ _ _ three queue ((all queue).mp member)
    have named := shapeQueue_name python fields merged label queue made
    have present := (mem_keys_iff merged label).mp (perm.mem_iff.mp listed)
    obtain ⟨entry, inside, _, hashed⟩ := (faithful.keys_iff label).mp present
    rw [named] at hashed
    exact encodables entry inside queue.queueName ((hash_eq_text_iff _ _).mp hashed)

/-- The queue history answers exactly if its series can be shaped and named. -/
theorem returns_queueHistory_iff (range : RangeSpec) (values : List (List Json)) :
    Returns (queueHistory python range (.ok values)) ↔
      ∀ entry ∈ allSeries (queueFields.zip values),
        QueueShaped python entry.2 ∧ NameEncodable entry.2 := by
  have response (body : QueueHistory) : Returns (queueResponse body) ↔
      ∀ queue ∈ body.queues ++ body.dlqSummary, encodable queue.queueName = true := by
    unfold queueResponse
    split
    · rename_i holds
      exact iff_of_true (Returns.ok _) (List.all_eq_true.mp holds)
    · rename_i fails
      exact iff_of_false (Returns.error _) fun holds => fails (List.all_eq_true.mpr holds)
  unfold queueHistory
  dsimp only
  rw [Returns.bind_iff]
  constructor
  · rintro ⟨shaped, done, returns⟩ entry member
    have shapes := (returns_shapeQueues_iff python queueFields _).mp ⟨shaped, done⟩
    have names := (shapedNames_iff python queueFields _ shaped done).mp ((response _).mp returns)
    exact ⟨shapes entry member, names entry member⟩
  · intro shapes
    obtain ⟨shaped, done⟩ := (returns_shapeQueues_iff python queueFields _).mpr
      fun entry member => (shapes entry member).1
    exact ⟨shaped, done, (response _).mpr ((shapedNames_iff python queueFields _ shaped done).mpr
      fun entry member => (shapes entry member).2)⟩

end Exact

end OperationsConsole.History
