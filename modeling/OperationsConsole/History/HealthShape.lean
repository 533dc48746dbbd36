/-
This file decides when the health route answers, for the shapes of the answers of its queries.
The three parts of the response are shaped one after the other.
-/

import OperationsConsole.History.HealthHistory
import OperationsConsole.Library.Joining

namespace OperationsConsole.History

open Library

section Encoding

/-- A number out of range is not encoded, nor is a lone surrogate. -/
def LabelEncodable : Label → Prop
  | .null => True
  | .number value => value.isFinite = true
  | .text value => encodable value = true

/-- Only a finite number is encoded. -/
theorem returns_encodeDouble_iff (value : Double) :
    Returns (encodeDouble value) ↔ value.isFinite = true := by
  unfold encodeDouble
  split
  · rename_i holds
    exact iff_of_true (Returns.ok _) holds
  · rename_i fails
    exact iff_of_false (Returns.error _) fails

/-- Labels with one hash are encoded alike. -/
theorem returns_encodeLabel_iff (value : Json) (hashed : Label) (same : value.hash = .ok hashed) :
    Returns (encodeLabel value) ↔ LabelEncodable hashed := by
  cases value with
  | null =>
      rw [← Except.ok.inj same]
      exact iff_of_true (Returns.ok _) trivial
  | bool value =>
      rw [← Except.ok.inj same]
      exact iff_of_true (Returns.ok _) rfl
  | int value =>
      rw [← Except.ok.inj same]
      exact iff_of_true (Returns.ok _) rfl
  | float value =>
      rw [← Except.ok.inj same]
      exact returns_encodeDouble_iff value
  | text value =>
      rw [← Except.ok.inj same]
      unfold encodeLabel LabelEncodable
      dsimp only
      split
      · rename_i holds
        exact iff_of_true (Returns.ok _) holds
      · rename_i fails
        exact iff_of_false (Returns.error _) fails
  | list items => cases same
  | dict items => cases same

end Encoding

section Services

variable (python : Python)

/-- A mean raises nothing, because it divides by the number of its values. -/
theorem returns_mean (values : List (Option ℚ)) : Returns (mean python values) := by
  unfold mean
  dsimp only
  split
  · exact Returns.ok _
  · rename_i present
    refine (Returns.map_iff _ _).mpr (Double.returns_div _ _ _ (Nat.cast_ne_zero.mpr ?_))
    rw [List.isEmpty_iff] at present
    exact fun none => present (List.eq_nil_of_length_eq_zero none)

/-- A field has its last number at each instant, in the order of the instants. -/
def numbersOf (told : List Told) (field : String) : List ℚ :=
  (inOrder python (told.map Told.instant).eraseDups).filterMap fun instant =>
    ((samplesAt told instant field).getLast?.map Told.value).join

/-- The samples of the points are the numbers that are told. -/
theorem filterMap_serviceSamples (told : List Told) (field : String) :
    (serviceSamples python (gatherPoints told) field).filterMap id = numbersOf python told field := by
  have keys : (gatherPoints told).items.map Prod.fst = (told.map Told.instant).eraseDups :=
    gather_keys Told.instant _ _ told
  unfold serviceSamples numbersOf timesOf
  rw [List.filterMap_map, keys]
  congr 1
  funext instant
  exact congrArg Option.join (valueAt_gatherPoints told instant field)

/-- The numbers have a mean in range, after a multiplication. -/
def MeanInRange (numbers : List ℚ) (factor : Double → Double) : Prop :=
  numbers ≠ [] → ∀ mean, (python.sum numbers).div python.nearest (.finite numbers.length) =
    .ok mean → (factor mean).isFinite = true

/-- The percentage of the mean availability and the mean response time of a target are in range. -/
structure MeansFinite (told : List Told) : Prop where
  uptime : MeanInRange python (numbersOf python told "availability")
    fun mean => mean.mul python.nearest (.finite 100)
  response : MeanInRange python (numbersOf python told "response_time_ms") id

/-- A mean in range is that of the numbers that are told. -/
theorem mean_inRange_iff (values : List (Option ℚ)) (mean : Option Double)
    (done : History.mean python values = .ok mean) (factor : Double → Double) :
    (∀ value, mean = some value → (factor value).isFinite = true) ↔
      MeanInRange python (values.filterMap id) factor := by
  unfold History.mean at done
  unfold MeanInRange
  dsimp only at done
  split at done
  · rename_i none
    rw [← Except.ok.inj done]
    exact iff_of_true (by simp) fun some => absurd (List.isEmpty_iff.mp none) some
  · rename_i present
    rw [List.isEmpty_iff] at present
    rw [forall_prop_of_true present]
    obtain ⟨quotient, divided⟩ := Double.returns_div python.nearest
      (python.sum (values.filterMap id)) ((values.filterMap id).length : ℚ)
      (Nat.cast_ne_zero.mpr fun none => present (List.eq_nil_of_length_eq_zero none))
    rw [divided] at done ⊢
    cases done
    constructor
    · rintro all _ ⟨⟩
      exact all quotient rfl
    · rintro all _ ⟨⟩
      exact all quotient rfl

/-- A card is shaped from the samples of its target. -/
theorem shapeService_card (merged : Merged) (target : Label) (key : Json) (told : List Told)
    (found : merged.get? target = some (key, gatherPoints told)) :
    ∃ card, shapeService python merged target = .ok card ∧
      (Returns (encodeService card) ↔ Returns (encodeLabel key) ∧ MeansFinite python told) := by
  obtain ⟨uptime, one⟩ :=
    returns_mean python (serviceSamples python (gatherPoints told) "availability")
  obtain ⟨response, two⟩ :=
    returns_mean python (serviceSamples python (gatherPoints told) "response_time_ms")
  refine ⟨⟨key, status python
    ((serviceSamples python (gatherPoints told) "availability").reverse.findSome? id),
    uptime.map fun uptime => uptime.mul python.nearest (.finite 100), response⟩, ?_, ?_⟩
  · unfold shapeService
    rw [found]
    exact (bind_eq_ok_iff _ _ _).mpr ⟨uptime, one, (bind_eq_ok_iff _ _ _).mpr ⟨response, two, rfl⟩⟩
  · have up := mean_inRange_iff python _ uptime one
      fun mean => mean.mul python.nearest (.finite 100)
    have down := mean_inRange_iff python _ response two id
    rw [filterMap_serviceSamples] at up down
    unfold encodeService
    rw [Returns.bind_iff]
    dsimp only
    have finite : Returns (((uptime.map fun uptime =>
        uptime.mul python.nearest (.finite 100)).toList ++ response.toList).forM encodeDouble) ↔
          MeansFinite python told := by
      rw [returns_forM_iff]
      simp only [returns_encodeDouble_iff, List.mem_append, Option.mem_toList]
      constructor
      · intro all
        refine ⟨up.mp ?_, down.mp ?_⟩
        · intro value same
          exact all _ (.inl (Option.map_eq_some_iff.mpr ⟨value, same, rfl⟩))
        · intro value same
          exact all value (.inr same)
      · rintro ⟨first, second⟩ value (member | member)
        · obtain ⟨mean, known, rfl⟩ := Option.map_eq_some_iff.mp member
          exact up.mpr first mean known
        · exact down.mpr second value member
    constructor
    · rintro ⟨done, labelled, rest⟩
      exact ⟨⟨done, labelled⟩, finite.mp rest⟩
    · rintro ⟨⟨done, labelled⟩, means⟩
      exact ⟨done, labelled, finite.mpr means⟩

/-- Labels are sorted exactly if all are texts or all are numbers. -/
theorem returns_sortLabels_iff (labels : List Label) (named : ∀ label ∈ labels, label ≠ .null) :
    Returns (sortLabels labels) ↔
      (∀ label ∈ labels, isText label = true) ∨ ∀ label ∈ labels, isNumber label = true := by
  have known (label : Label) (member : label ∈ labels) :
      isText label = true ∨ isNumber label = true := by
    cases label with
    | null => exact absurd rfl (named _ member)
    | number value => exact .inr rfl
    | text value => exact .inl rfl
  have cases : (labels.all isText || labels.all isNumber || decide (labels.length ≤ 1)) = true ↔
      (∀ label ∈ labels, isText label = true) ∨ ∀ label ∈ labels, isNumber label = true := by
    rw [Bool.or_eq_true, Bool.or_eq_true, List.all_eq_true, List.all_eq_true, decide_eq_true_iff]
    refine or_iff_left_of_imp ?_
    intro short
    match labels, short, known with
    | [], _, _ => simp
    | [label], _, known => simpa using known label List.mem_cons_self
  rw [← cases]
  unfold sortLabels
  split
  · rename_i holds
    exact iff_of_true (Returns.ok _) holds
  · rename_i fails
    exact iff_of_false (Returns.error _) fails

/-- The targets of the services are of one type and can be written, and the means are in range. -/
structure ServicesShaped (results : List (String × List Json)) : Prop where
  mergeable : ∀ entry ∈ allSeries results, Mergeable python "target" entry.2
  comparable : (∀ entry ∈ allSeries results, ∀ hashed, Labelled "target" hashed entry.2 →
      isText hashed = true) ∨
    ∀ entry ∈ allSeries results, ∀ hashed, Labelled "target" hashed entry.2 →
      isNumber hashed = true
  written : ∀ entry ∈ allSeries results, ∀ hashed, Labelled "target" hashed entry.2 →
    LabelEncodable hashed
  finite : ∀ entry ∈ allSeries results, ∀ hashed, Labelled "target" hashed entry.2 →
    MeansFinite python (toldOf python "target" hashed (allSeries results).zipIdx)

theorem Labelled.ne_null {label : String} {hashed : Label} {series : Json}
    (labelled : Labelled label hashed series) : hashed ≠ .null := by
  rintro rfl
  obtain ⟨named, same⟩ := labelled
  cases value : labelOf label series with
  | null => exact named value
  | bool value' => rw [value] at same; cases same
  | int value' => rw [value] at same; cases same
  | float value' => rw [value] at same; cases same
  | text value' => rw [value] at same; cases same
  | list items => rw [value] at same; cases same
  | dict items => rw [value] at same; cases same

/-- What holds of each key of a merged dictionary holds of each label of its series. -/
theorem forall_keys_iff (label : String) (results : List (String × List Json)) (merged : Merged)
    (faithful : Faithful python label (allSeries results).zipIdx merged) (holds : Label → Prop) :
    (∀ hashed ∈ merged.items.map Prod.fst, holds hashed) ↔
      ∀ entry ∈ allSeries results, ∀ hashed, Labelled label hashed entry.2 → holds hashed := by
  constructor
  · intro all entry member hashed labelled
    exact all hashed ((mem_keys_iff merged hashed).mpr
      ((faithful.keys_iff hashed).mpr ⟨entry, member, labelled⟩))
  · intro all hashed member
    obtain ⟨entry, inside, labelled⟩ :=
      (faithful.keys_iff hashed).mp ((mem_keys_iff merged hashed).mp member)
    exact all entry inside hashed labelled

/-- The cards of sorted targets are encoded exactly if their labels are and their means are in
range. -/
theorem cards_iff (merged : Merged) (targets : List Label) (results : List (String × List Json))
    (faithful : Faithful python "target" (allSeries results).zipIdx merged)
    (sorted : targets.Perm (merged.items.map Prod.fst)) :
    ∃ cards, targets.mapM (shapeService python merged) = .ok cards ∧
      (Returns (cards.forM encodeService) ↔ ∀ hashed ∈ merged.items.map Prod.fst,
        LabelEncodable hashed ∧
          MeansFinite python (toldOf python "target" hashed (allSeries results).zipIdx)) := by
  have held (target : Label) (member : target ∈ targets) :
      ∃ card, shapeService python merged target = .ok card ∧
        (Returns (encodeService card) ↔ LabelEncodable target ∧
          MeansFinite python (toldOf python "target" target (allSeries results).zipIdx)) := by
    obtain ⟨⟨key, points⟩, found⟩ := Option.isSome_iff_exists.mp
      ((mem_keys_iff merged target).mp (sorted.mem_iff.mp member))
    have told := faithful.told target
    rw [found] at told
    change points = _ at told
    rw [told] at found
    obtain ⟨card, made, exact⟩ := shapeService_card python merged target key _ found
    obtain ⟨series, _, labelled, same⟩ := faithful.named target key _ found
    refine ⟨card, made, ?_⟩
    rw [exact, returns_encodeLabel_iff key target (by rw [← same]; exact labelled.2)]
  obtain ⟨cards, made⟩ := (returns_mapM_iff (shapeService python merged) targets).mpr (by
    intro target member
    obtain ⟨card, made, _⟩ := held target member
    exact ⟨card, made⟩)
  refine ⟨cards, made, ?_⟩
  rw [returns_forM_iff]
  constructor
  · intro all hashed member
    have listed := sorted.mem_iff.mpr member
    obtain ⟨card, one, exact⟩ := held hashed listed
    obtain ⟨other, inside, two⟩ := mapM_mem _ _ _ made hashed listed
    rw [one] at two
    rw [Except.ok.inj two] at exact
    exact exact.mp (all other inside)
  · intro all card member
    obtain ⟨target, inside, one⟩ := mem_of_mapM _ _ _ made card member
    obtain ⟨other, two, exact⟩ := held target inside
    rw [one] at two
    rw [← Except.ok.inj two] at exact
    exact exact.mpr (all target (sorted.mem_iff.mp inside))

/-- The cards of the services are shaped in the order of the targets. -/
theorem shapeServices_eq_ok_iff (results : List (String × List Json)) (cards : List ServiceCard) :
    shapeServices python results = .ok cards ↔
      ∃ merged targets, merge python "target" (serviceResults results) = .ok merged ∧
        sortLabels (merged.items.map Prod.fst) = .ok targets ∧
        targets.mapM (shapeService python merged) = .ok cards := by
  unfold shapeServices serviceResults
  constructor
  · intro done
    obtain ⟨merged, one, done⟩ := (bind_eq_ok_iff _ _ _).mp done
    obtain ⟨targets, two, three⟩ := (bind_eq_ok_iff _ _ _).mp done
    exact ⟨merged, targets, one, two, three⟩
  · rintro ⟨merged, targets, one, two, three⟩
    exact (bind_eq_ok_iff _ _ _).mpr ⟨merged, one, (bind_eq_ok_iff _ _ _).mpr ⟨targets, two, three⟩⟩

/-- The services are shaped and encoded exactly if their series are. -/
theorem services_iff (results : List (String × List Json)) :
    (∃ cards, shapeServices python results = .ok cards ∧ Returns (cards.forM encodeService)) ↔
      ServicesShaped python (serviceResults results) := by
  constructor
  · rintro ⟨cards, done, encoded⟩
    obtain ⟨merged, targets, one, two, three⟩ :=
      (shapeServices_eq_ok_iff python results cards).mp done
    have faithful := faithful_merge python "target" _ merged one
    have keys := forall_keys_iff python "target" _ merged faithful
    obtain ⟨others, made, exact⟩ := cards_iff python merged targets _ faithful
      (sortLabels_perm _ targets two)
    rw [three] at made
    rw [← Except.ok.inj made] at exact
    have parts := (keys _).mp (exact.mp encoded)
    refine ⟨(returns_merge_iff python "target" _).mp ⟨merged, one⟩, ?_, ?_, ?_⟩
    · rw [← keys fun hashed => isText hashed = true, ← keys fun hashed => isNumber hashed = true]
      exact (returns_sortLabels_iff _ ((keys fun hashed => hashed ≠ .null).mpr
        fun entry member hashed labelled => labelled.ne_null)).mp ⟨targets, two⟩
    · intro entry member hashed labelled
      exact (parts entry member hashed labelled).1
    · intro entry member hashed labelled
      exact (parts entry member hashed labelled).2
  · rintro ⟨mergeable, comparable, written, finite⟩
    obtain ⟨merged, one⟩ := (returns_merge_iff python "target" _).mpr mergeable
    have faithful := faithful_merge python "target" _ merged one
    have keys := forall_keys_iff python "target" _ merged faithful
    rw [← keys fun hashed => isText hashed = true, ← keys fun hashed => isNumber hashed = true]
      at comparable
    obtain ⟨targets, two⟩ := (returns_sortLabels_iff _ ((keys fun hashed => hashed ≠ .null).mpr
      fun entry member hashed labelled => labelled.ne_null)).mpr comparable
    obtain ⟨cards, three, exact⟩ := cards_iff python merged targets _ faithful
      (sortLabels_perm _ targets two)
    refine ⟨cards, (shapeServices_eq_ok_iff python results cards).mpr
      ⟨merged, targets, one, two, three⟩, exact.mpr ((keys _).mpr ?_)⟩
    intro entry member hashed labelled
    exact ⟨written entry member hashed labelled, finite entry member hashed labelled⟩

end Services

section Responses

variable (python : Python)

/-- The series of a percentile has samples with dates. -/
structure Responding (series : Json) : Prop where
  fields : series.isDict = true
  valued : Valued python series
  dated : ∀ time, Holds python time series → Dated python time

/-- A response time is added exactly if its samples are read. -/
theorem returns_addResponse_iff (points : Points) (series : (String × Json) × ℕ) :
    Returns (addResponse python points series) ↔
      Returns (samplesOf python series.2 series.1) := by
  unfold addResponse
  exact Returns.bind_of_total _ _ fun samples => Returns.pure _

/-- The samples of a series are read exactly if it is a dictionary of readable values. -/
theorem returns_samplesOf (index : ℕ) (entry : String × Json) :
    Returns (samplesOf python index entry) ↔ entry.2.isDict = true ∧ Valued python entry.2 := by
  by_cases fields : entry.2.isDict = true
  · rw [returns_samplesOf_iff python index entry fields, and_iff_right fields]
  · refine iff_of_false ?_ fun both => fields both.1
    unfold samplesOf
    rintro ⟨samples, done⟩
    obtain ⟨values, got, _⟩ := (bind_eq_ok_iff _ _ _).mp done
    exact fields ((Json.get_eq_ok_iff _ _ _ _).mp got).1

/-- The folded points are those of the samples that the series tell. -/
theorem addResponses_points (series : List ((String × Json) × ℕ)) (points : Points)
    (done : series.foldlM (addResponse python) .empty = .ok points) :
    points = gatherPoints (series.flatMap (toldBy python)) := by
  refine foldlM_invariant (addResponse python) (fun earlier (points : Points) =>
    points = gatherPoints (earlier.flatMap (toldBy python))) .empty rfl ?_ series points done
  intro earlier last state next holds step
  obtain ⟨samples, read, made⟩ := (bind_eq_ok_iff _ _ _).mp step
  rw [← Except.ok.inj made, holds, foldl_addSample, List.flatMap_append, List.flatMap_singleton,
    toldBy_eq python last samples read]

/-- The response times are shaped exactly if their series have samples with dates. -/
theorem returns_shapeResponseSeries_iff (results : List (String × List Json)) :
    Returns (shapeResponseSeries python results) ↔
      ∀ entry ∈ percentileSeries results, Responding python entry.2 := by
  let series := (percentileSeries results).zipIdx
  have folds := returns_foldlM_iff (addResponse python)
    (fun one => one.1.2.isDict = true ∧ Valued python one.1.2)
    (fun points one => (returns_addResponse_iff python points one).trans
      (returns_samplesOf python one.2 one.1)) series .empty
  have each := forall_zipIdx_iff (percentileSeries results) fun entry =>
    entry.2.isDict = true ∧ Valued python entry.2
  unfold shapeResponseSeries
  rw [Returns.bind_iff]
  constructor
  · rintro ⟨points, done, shaped⟩ entry member
    have valued := each.mp (folds.mp ⟨points, done⟩)
    refine ⟨(valued entry member).1, (valued entry member).2, ?_⟩
    intro time held
    obtain ⟨index, found⟩ := List.mem_iff_getElem?.mp member
    obtain ⟨one, inside, same⟩ := (holds_iff_toldBy python (entry, index)
      (valued entry member).1 (valued entry member).2 time).mp held
    rw [← same]
    refine (returns_dataPoints_iff python percentiles points).mp shaped one.instant ?_
    rw [addResponses_points python _ points done, get?_gatherPoints_isSome_iff]
    exact ⟨one, List.mem_flatMap.mpr
      ⟨(entry, index), List.mk_mem_zipIdx_iff_getElem?.mpr found, inside⟩, rfl⟩
  · intro responding
    obtain ⟨points, done⟩ := folds.mpr (each.mpr fun entry member =>
      ⟨(responding entry member).fields, (responding entry member).valued⟩)
    refine ⟨points, done, (returns_dataPoints_iff python percentiles points).mpr ?_⟩
    intro instant present
    rw [addResponses_points python _ points done, get?_gatherPoints_isSome_iff] at present
    obtain ⟨one, member, rfl⟩ := present
    obtain ⟨other, listed, inside⟩ := List.mem_flatMap.mp member
    have shape := responding other.1 (List.fst_mem_of_mem_zipIdx listed)
    exact shape.dated one.instant.time
      ((holds_iff_toldBy python other shape.fields shape.valued _).mpr ⟨one, inside, rfl⟩)

end Responses

section Endpoints

variable (python : Python)

/-- An instant query has a value with a second item, which is a number or no number at all. -/
def HasItem (series : Json) : Prop :=
  ∃ raw, (series.field "value" (.list [.int 0, .null])).item 1 = .ok raw ∧ Counted python raw

def serviceOf (series : Json) : Json := (metricOf series).field "service_name" (.text [])

def routeOf (series : Json) : Json := (metricOf series).field "http_route" (.text [])

/-- A series of the table has a dictionary of labels, and its service and its route have hashes. -/
structure Routed (series : Json) : Prop where
  keyed : Keyed series
  service : Returns (serviceOf series).hash
  route : Returns (routeOf series).hash
  instant : HasItem python series

/-- The value of a series is read exactly if its pair is. -/
theorem instantValue_returns (series : Json) :
    Returns (instantValue python series) ↔ series.isDict = true ∧ HasItem python series := by
  unfold instantValue HasItem
  constructor
  · rintro ⟨number, done⟩
    obtain ⟨value, one, done⟩ := (bind_eq_ok_iff _ _ _).mp done
    obtain ⟨raw, two, three⟩ := (bind_eq_ok_iff _ _ _).mp done
    obtain ⟨fields, rfl⟩ := (Json.get_eq_ok_iff _ _ _ _).mp one
    exact ⟨fields, raw, two, number, three⟩
  · rintro ⟨fields, raw, two, number, three⟩
    exact ⟨number, (bind_eq_ok_iff _ _ _).mpr ⟨_, (Json.get_eq_ok_iff _ _ _ _).mpr ⟨fields, rfl⟩,
      (bind_eq_ok_iff _ _ _).mpr ⟨raw, two, three⟩⟩⟩

/-- A series of the table tells a field of its row. -/
structure RowTold where
  key : Label × Label
  field : String
  value : Option ℚ

def rowTold (entry : String × Json) : Option RowTold :=
  match (serviceOf entry.2).hash, (routeOf entry.2).hash, instantValue python entry.2 with
  | .ok service, .ok route, .ok value => some ⟨(service, route), entry.1, value⟩
  | _, _, _ => none

/-- A series adds the field that it tells to its row. -/
theorem addEndpoint_eq_ok_iff (rows next : EndpointRows) (entry : String × Json) :
    addEndpoint python rows entry = .ok next ↔ Keyed entry.2 ∧ ∃ service route value,
      (serviceOf entry.2).hash = .ok service ∧ (routeOf entry.2).hash = .ok route ∧
        instantValue python entry.2 = .ok value ∧
          next = rows.set (service, route)
            (((rows.get? (service, route)).getD ((serviceOf entry.2, routeOf entry.2), .empty)).1,
              ((rows.get? (service, route)).getD
                ((serviceOf entry.2, routeOf entry.2), .empty)).2.set entry.1 value) := by
  unfold addEndpoint
  constructor
  · intro done
    obtain ⟨metric, one, done⟩ := (bind_eq_ok_iff _ _ _).mp done
    obtain ⟨service, two, done⟩ := (bind_eq_ok_iff _ _ _).mp done
    obtain ⟨route, three, done⟩ := (bind_eq_ok_iff _ _ _).mp done
    obtain ⟨value, four, done⟩ := (bind_eq_ok_iff _ _ _).mp done
    obtain ⟨serviceHash, five, done⟩ := (bind_eq_ok_iff _ _ _).mp done
    obtain ⟨routeHash, six, done⟩ := (bind_eq_ok_iff _ _ _).mp done
    obtain ⟨fields, rfl⟩ := (Json.get_eq_ok_iff _ _ _ _).mp one
    obtain ⟨held, rfl⟩ := (Json.get_eq_ok_iff _ _ _ _).mp two
    obtain ⟨_, rfl⟩ := (Json.get_eq_ok_iff _ _ _ _).mp three
    exact ⟨⟨fields, held⟩, serviceHash, routeHash, value, five, six, four,
      (Except.ok.inj done).symm⟩
  · rintro ⟨⟨fields, held⟩, service, route, value, five, six, four, rfl⟩
    refine (bind_eq_ok_iff _ _ _).mpr ⟨_, (Json.get_eq_ok_iff _ _ _ _).mpr ⟨fields, rfl⟩, ?_⟩
    refine (bind_eq_ok_iff _ _ _).mpr ⟨_, (Json.get_eq_ok_iff _ _ _ _).mpr ⟨held, rfl⟩, ?_⟩
    refine (bind_eq_ok_iff _ _ _).mpr ⟨_, (Json.get_eq_ok_iff _ _ _ _).mpr ⟨held, rfl⟩, ?_⟩
    refine (bind_eq_ok_iff _ _ _).mpr ⟨value, four, ?_⟩
    refine (bind_eq_ok_iff _ _ _).mpr ⟨service, five, ?_⟩
    exact (bind_eq_ok_iff _ _ _).mpr ⟨route, six, rfl⟩

/-- A row is added exactly if its labels and its value are read. -/
theorem returns_addEndpoint_iff (rows : EndpointRows) (entry : String × Json) :
    Returns (addEndpoint python rows entry) ↔ Routed python entry.2 := by
  constructor
  · rintro ⟨next, done⟩
    obtain ⟨keyed, service, route, value, one, two, three, _⟩ :=
      (addEndpoint_eq_ok_iff python rows next entry).mp done
    exact ⟨keyed, ⟨service, one⟩, ⟨route, two⟩,
      ((instantValue_returns python entry.2).mp ⟨value, three⟩).2⟩
  · rintro ⟨keyed, ⟨service, one⟩, ⟨route, two⟩, instant⟩
    obtain ⟨value, three⟩ := (instantValue_returns python entry.2).mpr ⟨keyed.fields, instant⟩
    exact ⟨_, (addEndpoint_eq_ok_iff python rows _ entry).mpr
      ⟨keyed, service, route, value, one, two, three, rfl⟩⟩

/-- A row has the fields that are told. -/
def gatherRow (told : List RowTold) : Dict (Label × Label) (Dict String (Option ℚ)) :=
  gather RowTold.key (fun _ => .empty) (fun fields one => fields.set one.field one.value) told

/-- The rows have the labels and the fields that the series tell. -/
structure RowsOf (entries : List (String × Json)) (rows : EndpointRows) : Prop where
  labels : ∀ key labels fields, rows.get? key = some (labels, fields) →
    labels.1.hash = .ok key.1 ∧ labels.2.hash = .ok key.2
  fields : ∀ key, (rows.get? key).map Prod.snd =
    (gatherRow (entries.filterMap (rowTold python))).get? key

/-- The rows are those that the series tell. -/
theorem rowsOf_addEndpoints (entries : List (String × Json)) (rows : EndpointRows)
    (done : entries.foldlM (addEndpoint python) .empty = .ok rows) :
    RowsOf python entries rows := by
  refine foldlM_invariant (addEndpoint python) (RowsOf python) .empty ?_ ?_ entries rows done
  · refine ⟨?_, fun key => rfl⟩
    intro key labels fields found
    cases found
  · intro earlier entry rows next ⟨labels, fields⟩ step
    obtain ⟨_, service, route, value, one, two, three, rfl⟩ :=
      (addEndpoint_eq_ok_iff python rows next entry).mp step
    have told : rowTold python entry = some ⟨(service, route), entry.1, value⟩ := by
      unfold rowTold
      rw [one, two, three]
    refine ⟨?_, ?_⟩
    · intro key others known found
      rw [Dict.get?_set] at found
      split at found
      · rename_i same
        rw [same, ← (Prod.mk.inj (Option.some.inj found)).1]
        cases stored : rows.get? (service, route) with
        | none => exact ⟨one, two⟩
        | some held => exact labels (service, route) held.1 held.2 stored
      · exact labels key others known found
    · intro key
      have last : [entry].filterMap (rowTold python) = [⟨(service, route), entry.1, value⟩] := by
        rw [List.filterMap_cons_some told, List.filterMap_nil]
      rw [List.filterMap_append, last]
      unfold gatherRow at fields ⊢
      rw [gather_concat, Dict.get?_set, Dict.get?_set, ← fields (service, route)]
      by_cases same : key = (service, route)
      · rw [if_pos same, if_pos same]
        cases rows.get? (service, route) with
        | none => rfl
        | some held => rfl
      · rw [if_neg same, if_neg same]
        exact fields key

/-- A row tells the last number of a field. -/
def rowField (told : List RowTold) (key : Label × Label) (field : String) : Option ℚ :=
  ((groupOf RowTold.field (groupOf RowTold.key told key) field).getLast?.map RowTold.value).join

/-- A field of a row is the last value that is told of it. -/
theorem rowField_eq (told : List RowTold) (key : Label × Label) (fields : Dict String (Option ℚ))
    (found : (gatherRow told).get? key = some fields) (field : String) :
    (fields.get? field).join = rowField told key field := by
  have last := get?_foldl_set RowTold.field RowTold.value (groupOf RowTold.key told key) .empty field
  unfold gatherRow at found
  rw [get?_gather] at found
  unfold rowField
  cases group : groupOf RowTold.key told key with
  | nil =>
      rw [group] at found
      cases found
  | cons first rest =>
      rw [group] at found last
      rw [← Option.some.inj found, last]
      exact congrArg Option.join Option.or_none

/-- No row tells no number. -/
theorem rowField_none (told : List RowTold) (key : Label × Label)
    (absent : (gatherRow told).get? key = none) (field : String) : rowField told key field = none := by
  unfold gatherRow at absent
  rw [get?_gather, Option.map_eq_none_iff, List.head?_eq_none_iff] at absent
  unfold rowField
  rw [absent]
  rfl

/-- The labels of a row with requests can be written, and its percentage of errors is in range. -/
def RowWritten (told : List RowTold) (key : Label × Label) : Prop :=
  ∀ count, rowField told key "request_count" = some count → count ≠ 0 →
    LabelEncodable key.1 ∧ LabelEncodable key.2 ∧
      ∀ errorPct, (Double.mul python.nearest (.finite 100)
        (.finite ((rowField told key "error_count").getD 0))).div python.nearest (.finite count) =
          .ok errorPct → errorPct.isFinite = true

/-- A row is encoded exactly if its labels and its share are. -/
theorem encodeEndpoint_returns (endpoint : Endpoint) :
    Returns (encodeEndpoint endpoint) ↔ Returns (encodeLabel endpoint.serviceName) ∧
      Returns (encodeLabel endpoint.endpoint) ∧ endpoint.errorPct.isFinite = true := by
  unfold encodeEndpoint
  rw [← returns_encodeDouble_iff]
  constructor
  · intro returns
    obtain ⟨first, one, returns⟩ := (Returns.bind_iff _ _).mp returns
    obtain ⟨second, two, three⟩ := (Returns.bind_iff _ _).mp returns
    exact ⟨⟨first, one⟩, ⟨second, two⟩, three⟩
  · rintro ⟨⟨first, one⟩, ⟨second, two⟩, three⟩
    exact (Returns.bind_iff _ _).mpr ⟨first, one, (Returns.bind_iff _ _).mpr ⟨second, two, three⟩⟩

/-- A row is shaped or dropped, and nothing is raised. -/
theorem shapeEndpoint_row (entries : List (String × Json)) (rows : EndpointRows)
    (rowsOf : RowsOf python entries rows) (key : Label × Label)
    (row : (Json × Json) × Dict String (Option ℚ)) (found : rows.get? key = some row) :
    ∃ endpoint, shapeEndpoint python (key, row) = .ok endpoint ∧
      ((∀ shaped, endpoint = some shaped → Returns (encodeEndpoint shaped)) ↔
        RowWritten python (entries.filterMap (rowTold python)) key) := by
  have labels := rowsOf.labels key row.1 row.2 found
  have fields := rowsOf.fields key
  rw [found] at fields
  have read := rowField_eq _ key row.2 fields.symm
  unfold shapeEndpoint RowWritten
  dsimp only
  rw [← read "request_count", ← read "error_count",
    ← returns_encodeLabel_iff row.1.1 key.1 labels.1,
    ← returns_encodeLabel_iff row.1.2 key.2 labels.2]
  cases counted : (row.2.get? "request_count").join with
  | none => exact ⟨none, rfl, by simp⟩
  | some count =>
      dsimp only
      by_cases zero : count = 0
      · refine ⟨none, if_pos zero, iff_of_true (by simp) ?_⟩
        intro other same filled
        exact absurd (zero.symm.trans (Option.some.inj same)).symm filled
      · rw [if_neg zero]
        obtain ⟨errorPct, made⟩ := Double.returns_div python.nearest
          (Double.mul python.nearest (.finite 100)
            (.finite ((row.2.get? "error_count").join.getD 0))) count zero
        refine ⟨_, (bind_eq_ok_iff _ _ _).mpr ⟨_, rfl, (bind_eq_ok_iff _ _ _).mpr
          ⟨errorPct, made, rfl⟩⟩, ?_⟩
        constructor
        · intro all other same filled
          obtain ⟨service, route, finite⟩ := (encodeEndpoint_returns _).mp (all _ rfl)
          refine ⟨service, route, ?_⟩
          intro percentage known
          rw [← Option.some.inj same, made] at known
          rw [← Except.ok.inj known]
          exact finite
        · rintro holds _ ⟨⟩
          obtain ⟨service, route, finite⟩ := holds count rfl zero
          exact (encodeEndpoint_returns _).mpr ⟨service, route, finite errorPct made⟩

/-- The series of the table are read, and its rows can be written. -/
structure EndpointsShaped (results : List (String × List Json)) : Prop where
  routed : ∀ entry ∈ allSeries results, Routed python entry.2
  written : ∀ key, RowWritten python ((allSeries results).filterMap (rowTold python)) key

/-- The rows of a table are shaped, and encoded exactly if they can be written. -/
theorem rows_iff (entries : List (String × Json)) (rows : EndpointRows)
    (rowsOf : RowsOf python entries rows) :
    ∃ endpoints, rows.items.mapM (shapeEndpoint python) = .ok endpoints ∧
      ((∀ endpoint ∈ endpoints.filterMap id, Returns (encodeEndpoint endpoint)) ↔
        ∀ key, RowWritten python (entries.filterMap (rowTold python)) key) := by
  have held (row : (Label × Label) × ((Json × Json) × Dict String (Option ℚ)))
      (member : row ∈ rows.items) :=
    shapeEndpoint_row python entries rows rowsOf row.1 row.2
      ((Dict.get?_eq_some_iff rows row.1 row.2).mpr member)
  obtain ⟨endpoints, made⟩ := (returns_mapM_iff (shapeEndpoint python) rows.items).mpr
    fun row member => by
      obtain ⟨endpoint, one, _⟩ := held row member
      exact ⟨endpoint, one⟩
  refine ⟨endpoints, made, ?_⟩
  constructor
  · intro all key
    cases found : rows.get? key with
    | none =>
        have absent := rowsOf.fields key
        rw [found] at absent
        intro count counted
        rw [rowField_none _ key absent.symm] at counted
        cases counted
    | some row =>
        have member := (Dict.get?_eq_some_iff rows key row).mp found
        obtain ⟨endpoint, one, exact⟩ := held (key, row) member
        obtain ⟨other, inside, two⟩ := mapM_mem _ _ _ made (key, row) member
        rw [one] at two
        rw [← Except.ok.inj two] at inside
        refine exact.mp ?_
        rintro shaped rfl
        exact all shaped (List.mem_filterMap.mpr ⟨some shaped, inside, rfl⟩)
  · intro all endpoint member
    obtain ⟨shaped, inside, same⟩ := List.mem_filterMap.mp member
    obtain ⟨row, listed, one⟩ := mem_of_mapM _ _ _ made shaped inside
    obtain ⟨other, two, exact⟩ := held row listed
    rw [one] at two
    rw [← Except.ok.inj two] at exact
    exact exact.mpr (all row.1) endpoint same

/-- The endpoints are shaped and encoded exactly if their series are. -/
theorem endpoints_iff (results : List (String × List Json)) :
    (∃ endpoints, shapeEndpoints python results = .ok endpoints ∧
      Returns (endpoints.forM encodeEndpoint)) ↔ EndpointsShaped python results := by
  have folds := returns_foldlM_iff (addEndpoint python) (fun entry => Routed python entry.2)
    (returns_addEndpoint_iff python) (allSeries results) .empty
  have sorted (endpoints : List Endpoint) (before : Endpoint → Endpoint → Prop)
      [DecidableRel before] : Returns ((endpoints.insertionSort before).forM encodeEndpoint) ↔
        ∀ endpoint ∈ endpoints, Returns (encodeEndpoint endpoint) := by
    rw [returns_forM_iff]
    simp only [List.mem_insertionSort]
  unfold shapeEndpoints
  constructor
  · rintro ⟨endpoints, done, encoded⟩
    obtain ⟨rows, one, done⟩ := (bind_eq_ok_iff _ _ _).mp done
    obtain ⟨shaped, two, same⟩ := (bind_eq_ok_iff _ _ _).mp done
    rw [← Except.ok.inj same, sorted] at encoded
    obtain ⟨others, made, exact⟩ := rows_iff python _ rows (rowsOf_addEndpoints python _ rows one)
    rw [two] at made
    rw [← Except.ok.inj made] at exact
    exact ⟨folds.mp ⟨rows, one⟩, exact.mp encoded⟩
  · rintro ⟨routed, written⟩
    obtain ⟨rows, one⟩ := folds.mpr routed
    obtain ⟨shaped, two, exact⟩ := rows_iff python _ rows (rowsOf_addEndpoints python _ rows one)
    refine ⟨_, (bind_eq_ok_iff _ _ _).mpr ⟨rows, one, (bind_eq_ok_iff _ _ _).mpr
      ⟨shaped, two, rfl⟩⟩, ?_⟩
    rw [sorted]
    exact exact.mpr written

end Endpoints

/-- The answers of the queries of a health history have the shapes that it reads. -/
structure HealthShaped (python : Python) (values : List (List Json)) : Prop where
  services : ServicesShaped python (serviceResults (healthFields.zip values))
  responses : ∀ entry ∈ percentileSeries (healthFields.zip values), Responding python entry.2
  endpoints : EndpointsShaped python (endpointFields.zip (values.drop healthFields.length))

/-- The health history answers exactly if the answers of its queries have its shapes. -/
theorem returns_healthHistory_iff (python : Python) (range : RangeSpec)
    (values : List (List Json)) :
    Returns (healthHistory python range (.ok values)) ↔ HealthShaped python values := by
  unfold healthHistory healthResponse
  dsimp only
  constructor
  · intro returns
    obtain ⟨services, one, returns⟩ := (Returns.bind_iff _ _).mp returns
    obtain ⟨series, two, returns⟩ := (Returns.bind_iff _ _).mp returns
    obtain ⟨endpoints, three, returns⟩ := (Returns.bind_iff _ _).mp returns
    obtain ⟨first, four, returns⟩ := (Returns.bind_iff _ _).mp returns
    obtain ⟨second, five, _⟩ := (Returns.bind_iff _ _).mp returns
    exact ⟨(services_iff python _).mp ⟨services, one, ⟨first, four⟩⟩,
      (returns_shapeResponseSeries_iff python _).mp ⟨series, two⟩,
      (endpoints_iff python _).mp ⟨endpoints, three, ⟨second, five⟩⟩⟩
  · rintro ⟨services, responses, endpoints⟩
    obtain ⟨services, one, ⟨first, four⟩⟩ := (services_iff python _).mpr services
    obtain ⟨series, two⟩ := (returns_shapeResponseSeries_iff python _).mpr responses
    obtain ⟨endpoints, three, ⟨second, five⟩⟩ := (endpoints_iff python _).mpr endpoints
    refine (Returns.bind_iff _ _).mpr ⟨services, one, ?_⟩
    refine (Returns.bind_iff _ _).mpr ⟨series, two, ?_⟩
    refine (Returns.bind_iff _ _).mpr ⟨endpoints, three, ?_⟩
    refine (Returns.bind_iff _ _).mpr ⟨first, four, ?_⟩
    exact (Returns.bind_iff _ _).mpr ⟨second, five, Returns.pure _⟩

end OperationsConsole.History
