/-
This file decides when `shape_progress` guesses no total.
A ratio is trusted after a gauge sample that comes after the run, so its total may be a guess.
-/

import OperationsConsole.History.RunInfluence

namespace OperationsConsole.History

open Library
open Progress (RunPipeline)

/-- A rounding keeps the order, its results, and the integers that its results are rounded to. -/
structure Rounding (nearest : ℚ → Double) : Prop where
  monotone : ∀ first second, first ≤ second → (nearest second).lt (nearest first) = false
  fixed : ∀ exact value, nearest exact = .finite value → nearest value = .finite value
  whole : ∀ value, nearest value = .finite value →
    nearest (roundHalfEven value) = .finite (roundHalfEven value)

section Purpose

variable (python : Python) (start finish : Double)

/-- The gauge had no value at the start, or it took another value inside the run, in a range sample
or in the ratio. -/
def MovedInside (initial : Option ℚ) (points : List TimedValue) (ratio : ℚ) : Prop :=
  ∀ value ∈ initial, ratio ≠ value ∨ ∃ point ∈ points, start.lt point.time = true ∧
    point.time.le finish = true ∧ point.value ≠ value

variable (numbers : RunNumbers)

/-- An entity has an expected total exactly if a baseline, an extracted record and a ratio that the
gauge moved to are known. -/
structure EntityKnown (load : EntityLoad) : Prop where
  expected : load.expected.isSome = true ↔ numbers.held = true ∧
    (∃ count ∈ load.extracted, 0 < count) ∧ ∃ ratio ∈ numbers.fileProgress load.entity, 0 < ratio ∧
      MovedInside start finish (numbers.fileProgressStart load.entity)
        (numbers.fileProgressRange load.entity) ratio
  covers : ∀ expected ∈ load.expected, ∃ count ∈ load.extracted, count ≤ expected
  waiting : load.waitingForCheckpoint = true → load.fileProgress = none ∧ load.expected = none

variable (pipeline : RunPipeline) (results : List (String × List Json))

/-- The load of a run has one entry for each entity and each queue, every total is known, and the
range samples until the start have no influence. -/
structure KnownLoad (load : RunLoad) : Prop where
  entities : load.entities.map EntityLoad.entity = pipeline.entityTypes
  queues : (load.queues.map fun queue => (queue.consumer, queue.queue, queue.entity)) =
    (consumedQueues pipeline).map fun consumed =>
      (consumed.1, consumed.2.name, consumed.2.entity)
  known : ∀ entity ∈ load.entities,
    EntityKnown start finish (toldNumbers python results) entity
  loaded : ∀ queue ∈ load.queues,
    queue.loaded = none ↔ (toldNumbers python results).ackedStart queue.queue = none
  influence : ∀ other, RunRead python other → SampleTimes python other →
    SameAfter python start results other → shapeProgress python pipeline start finish other = .ok load

/-- The shape of a run never guesses a total. -/
def NeverGuesses : Prop :=
  ∃ load, shapeProgress python pipeline start finish results = .ok load ∧
    KnownLoad python start finish pipeline results load

/-- What the gauge shows after its value at the start is shown inside the run, and the range shows
it too if the range reaches the end. -/
structure GaugeSeen (value : ℚ) (points : List TimedValue) (ratio : ℚ) : Prop where
  late : ∀ point ∈ points, finish.lt point.time = true → point.value ≠ value →
    MovedInside start finish (some value) points ratio
  shown : ratio ≠ value → ∀ final ∈ points, finish.le final.time = true →
    ∃ point ∈ points, start.lt point.time = true ∧ point.value ≠ value

/-- The gauge of every entity with an extracted record and a ratio is seen inside the run. -/
def GaugesSeen : Prop :=
  ∀ entity ∈ pipeline.entityTypes, numbers.held = true → ∀ total, riseOver python start finish
      ((numbers.recordsStart entity).getD 0) (numbers.recordsRange entity)
        (numbers.recordsEnd entity) = .finite total → 0 < roundHalfEven total →
    ∀ ratio ∈ numbers.fileProgress entity, 0 < ratio →
      ∀ value ∈ numbers.fileProgressStart entity,
        GaugeSeen start finish value (numbers.fileProgressRange entity) ratio

end Purpose

section Gauges

variable (start finish : Double)

/-- A sample after the start is inside the run or after its end. -/
theorem inside_or_late (later : start.lt finish = true) (time : Double)
    (after : start.lt time = true) : time.le finish = true ∨ finish.lt time = true := by
  obtain ⟨_, known, _⟩ := (Double.lt_iff _ _).mp later
  obtain ⟨_, timed, _⟩ := (Double.lt_iff _ _).mp after
  rcases le_or_gt time.place finish.place with inside | late
  · exact .inl ((Double.le_iff _ _).mpr ⟨timed, known, inside⟩)
  · exact .inr ((Double.lt_iff _ _).mpr ⟨known, timed, late⟩)

/-- The samples are closed by the ratio unless one of them reaches the end. -/
theorem mem_closed_iff (points : List TimedValue) (timed : Timed points)
    (ordered : InTimeOrder points) (ratio : ℚ) (point : TimedValue) :
    point ∈ closed finish points (some ratio) ↔ point ∈ points ∨
      (∀ other ∈ points, ¬finish.le other.time = true) ∧ point = ⟨⟨finish, none⟩, ratio⟩ := by
  have reach := reaches_iff finish points timed ordered
  unfold closed
  by_cases reached : ∃ final ∈ points.getLast?, finish.le final.time = true
  · rw [if_pos reached, List.append_nil]
    obtain ⟨other, member, ends⟩ := reach.mp reached
    exact (or_iff_left fun both => both.1 other member ends).symm
  · have never : ∀ other ∈ points, ¬finish.le other.time = true := fun other member ends =>
      reached (reach.mpr ⟨other, member, ends⟩)
    rw [if_neg reached, List.mem_append, Option.toList_some, List.map_singleton,
      List.mem_singleton, and_iff_right never]

/-- A gauge without a value at the start moves in the closed samples. -/
theorem movedAfter_none (later : start.lt finish = true) (points : List TimedValue)
    (timed : Timed points) (ordered : InTimeOrder points) (ratio : ℚ) :
    MovedAfter start none (closed finish points (some ratio)) := by
  by_cases reached : ∃ other ∈ points, finish.le other.time = true
  · obtain ⟨other, member, ends⟩ := reached
    exact ⟨other, (mem_closed_iff finish points timed ordered ratio other).mpr (.inl member),
      late_of_reaches start finish later other.time ends, by simp⟩
  · push Not at reached
    exact ⟨⟨⟨finish, none⟩, ratio⟩, (mem_closed_iff finish points timed ordered ratio _).mpr
      (.inr ⟨reached, rfl⟩), later, by simp⟩

theorem movedAfter_some_iff (later : start.lt finish = true) (points : List TimedValue)
    (timed : Timed points) (ordered : InTimeOrder points) (ratio value : ℚ) :
    MovedAfter start (some value) (closed finish points (some ratio)) ↔
      (∃ point ∈ points, start.lt point.time = true ∧ point.value ≠ value) ∨
        (∀ other ∈ points, ¬finish.le other.time = true) ∧ ratio ≠ value := by
  unfold MovedAfter
  simp only [mem_closed_iff finish points timed ordered, Option.mem_some_iff, forall_eq']
  constructor
  · rintro ⟨point, member | ⟨never, rfl⟩, after, other⟩
    · exact .inl ⟨point, member, after, other⟩
    · exact .inr ⟨never, other⟩
  · rintro (⟨point, member, after, other⟩ | ⟨never, other⟩)
    · exact ⟨point, .inl member, after, other⟩
    · exact ⟨⟨⟨finish, none⟩, ratio⟩, .inr ⟨never, rfl⟩, later, other⟩

/-- The code sees the gauge move inside the run exactly if what the gauge shows is seen there. -/
theorem gaugeSeen_iff (later : start.lt finish = true) (points : List TimedValue)
    (timed : Timed points) (ordered : InTimeOrder points) (initial : Option ℚ) (ratio : ℚ) :
    (MovedAfter start initial (closed finish points (some ratio)) ↔
        MovedInside start finish initial points ratio) ↔
      ∀ value ∈ initial, GaugeSeen start finish value points ratio := by
  cases initial with
  | none =>
      exact iff_of_true (iff_of_true (movedAfter_none start finish later points timed ordered ratio)
        (by simp [MovedInside])) (by simp)
  | some value =>
      rw [movedAfter_some_iff start finish later points timed ordered]
      constructor
      · rintro same _ ⟨⟩
        refine ⟨?_, ?_⟩
        · intro point member late other
          refine same.mp (.inl ⟨point, member, ?_, other⟩)
          obtain ⟨known, _, before⟩ := (Double.lt_iff _ _).mp later
          obtain ⟨_, read, after⟩ := (Double.lt_iff _ _).mp late
          exact (Double.lt_iff _ _).mpr ⟨known, read, before.trans after⟩
        · intro other final member reached
          have inside : MovedInside start finish (some value) points ratio := by
            rintro _ ⟨⟩
            exact .inl other
          rcases same.mpr inside with shown | ⟨never, _⟩
          · exact shown
          · exact absurd reached (never final member)
      · intro seen
        obtain ⟨late, shown⟩ := seen value rfl
        constructor
        · rintro (⟨point, member, after, other⟩ | ⟨_, other⟩)
          · rcases inside_or_late start finish later point.time after with inside | beyond
            · rintro _ ⟨⟩
              exact .inr ⟨point, member, after, inside, other⟩
            · exact late point member beyond other
          · rintro _ ⟨⟩
            exact .inl other
        · intro moved
          rcases moved value rfl with other | ⟨point, member, after, _, other⟩
          · by_cases reached : ∃ final ∈ points, finish.le final.time = true
            · obtain ⟨final, member, ends⟩ := reached
              exact .inl (shown other final member ends)
            · push Not at reached
              exact .inr ⟨reached, other⟩
          · exact .inl ⟨point, member, after, other⟩

end Gauges

section Entities

variable (python : Python) (start finish : Double) (numbers : RunNumbers)

/-- The total of the rises is nothing, or it is a rounded number. -/
theorem sumOfRises_rounded (previous : ℚ) (values : List ℚ) (total : ℚ)
    (same : sumOfRises python (.finite 0) previous values = .finite total) :
    total = 0 ∨ ∃ exact, python.nearest exact = .finite total := by
  unfold sumOfRises at same
  rcases List.eq_nil_or_concat (List.zipWith (riseOf python) (previous :: values) values) with
    none | ⟨parts, last, parted⟩
  · rw [none, List.foldl_nil] at same
    exact .inl (Double.finite.inj same).symm
  · rw [parted, List.concat_eq_append, List.foldl_concat] at same
    exact .inr (Double.rounded_of_add python.nearest _ _ total same)

/-- An expected total is known exactly if both of its numbers are known and positive. -/
theorem expectedRecords_isSome_iff (extracted : Option ℤ) (ratio : Option ℚ) (expected : Option ℤ)
    (done : expectedRecords python extracted ratio = .ok expected) :
    expected.isSome = true ↔
      (∃ count ∈ extracted, 0 < count) ∧ ∃ share ∈ ratio, 0 < share := by
  unfold expectedRecords at done
  split at done
  · rename_i count share
    simp only [Option.mem_some_iff, exists_eq_left']
    split at done
    · rename_i unknown
      cases done
      refine iff_of_false Bool.false_ne_true ?_
      rintro ⟨counted, positive⟩
      exact unknown.elim counted.not_ge positive.not_ge
    · rename_i known
      rw [not_or, not_le, not_le] at known
      obtain ⟨records, _, done⟩ := (bind_eq_ok_iff _ _ _).mp done
      obtain ⟨quotient, _, done⟩ := (bind_eq_ok_iff _ _ _).mp done
      obtain ⟨rounded, _, done⟩ := (bind_eq_ok_iff _ _ _).mp done
      cases done
      exact iff_of_true rfl known
  · rename_i missing
    cases done
    refine iff_of_false Bool.false_ne_true ?_
    rintro ⟨⟨count, counted, _⟩, share, known, _⟩
    exact missing count share counted known

/-- The expected total covers the number that was extracted, if that number is a rounded one. -/
theorem le_expectedRecords (rounding : Rounding python.nearest) (count : ℤ) (ratio : Option ℚ)
    (exact : python.nearest count = .finite count) (expected : ℤ)
    (done : expectedRecords python (some count) ratio = .ok (some expected)) :
    count ≤ expected := by
  cases ratio with
  | none => cases done
  | some share =>
      unfold expectedRecords at done
      dsimp only at done
      split at done
      · cases done
      · rename_i known
        rw [not_or, not_le, not_le] at known
        have whole : (0 : ℚ) < min share 1 := lt_min known.2 one_pos
        have ratioed : (count : ℚ) ≤ count / min share 1 := by
          rw [le_div_iff₀ whole]
          calc (count : ℚ) * min share 1 ≤ count * 1 := by
                apply mul_le_mul_of_nonneg_left (min_le_right share 1)
                exact_mod_cast known.1.le
            _ = count := mul_one _
        have grown := rounding.monotone _ _ ratioed
        obtain ⟨records, one, done⟩ := (bind_eq_ok_iff _ _ _).mp done
        obtain ⟨quotient, two, done⟩ := (bind_eq_ok_iff _ _ _).mp done
        obtain ⟨rounded, three, done⟩ := (bind_eq_ok_iff _ _ _).mp done
        cases done
        unfold Python.toFloat at one
        dsimp only at one
        rw [exact] at one
        cases one
        rw [Double.finite_div _ _ _ whole.ne'] at two
        cases two
        cases value : python.nearest (count / min share 1) with
        | finite value' =>
            rw [value] at three
            rw [value, exact] at grown
            cases three
            exact le_roundHalfEven count value' (not_lt.mp (of_decide_eq_false grown))
        | infinite negative => rw [value] at three; cases three
        | nan => rw [value] at three; cases three

/-- The parts of a shaped entity. -/
structure EntityParts (entity : String) (load : EntityLoad) : Prop where
  named : load.entity = entity
  extracted : lastIncrease (recordsIncrease python start finish numbers entity) = .ok load.extracted
  ratio : load.fileProgress = trustedRatio start finish numbers entity
  expected : expectedRecords python load.extracted load.fileProgress = .ok load.expected
  waiting : load.waitingForCheckpoint = waitingForCheckpoint start finish numbers entity

theorem shapeEntity_parts (entity : String) (load : EntityLoad)
    (done : shapeEntity python start finish numbers entity = .ok load) :
    EntityParts python start finish numbers entity load := by
  obtain ⟨extracted, one, done⟩ := (bind_eq_ok_iff _ _ _).mp done
  obtain ⟨expected, two, done⟩ := (bind_eq_ok_iff _ _ _).mp done
  cases done
  exact ⟨rfl, one, rfl, two, rfl⟩

/-- The extracted number is the rounded rise over the baseline, if VictoriaMetrics held data. -/
theorem extracted_iff (entity : String) (extracted : Option ℤ)
    (done : lastIncrease (recordsIncrease python start finish numbers entity) = .ok extracted)
    (count : ℤ) :
    count ∈ extracted ↔ numbers.held = true ∧ ∃ total, riseOver python start finish
      ((numbers.recordsStart entity).getD 0) (numbers.recordsRange entity)
        (numbers.recordsEnd entity) = .finite total ∧ count = roundHalfEven total := by
  unfold recordsIncrease recordsBaseline at done
  cases held : numbers.held with
  | false =>
      rw [held, if_neg Bool.false_ne_true] at done
      cases done
      exact iff_of_false (by simp) fun both => Bool.false_ne_true both.1
  | true =>
      rw [held, if_pos rfl, lastIncrease_some] at done
      rw [and_iff_right rfl]
      cases rise : riseOver python start finish ((numbers.recordsStart entity).getD 0)
          (numbers.recordsRange entity) (numbers.recordsEnd entity) with
      | finite total =>
          rw [rise] at done
          cases done
          simp [eq_comm]
      | infinite negative =>
          rw [rise] at done
          cases done
      | nan =>
          rw [rise] at done
          cases done

/-- A total is expected exactly if a record was extracted and the gauge moved to its ratio. -/
theorem expected_iff (entity : String) (load : EntityLoad)
    (parts : EntityParts python start finish numbers entity load) :
    load.expected.isSome = true ↔ (∃ count ∈ load.extracted, 0 < count) ∧
      ∃ ratio ∈ numbers.fileProgress entity, 0 < ratio ∧
        MovedAfter start (numbers.fileProgressStart entity)
          (closed finish (numbers.fileProgressRange entity) (some ratio)) := by
  rw [expectedRecords_isSome_iff python _ _ _ parts.expected, parts.ratio]
  simp only [Option.mem_def, trustedRatio_eq_some_iff]
  refine and_congr_right fun _ => exists_congr fun ratio => ?_
  rw [and_assoc, and_comm (a := MovedAfter _ _ _)]

/-- An entity is known exactly if its gauge is seen inside the run. -/
theorem entityKnown_iff (rounding : Rounding python.nearest) (later : start.lt finish = true)
    (entity : String) (load : EntityLoad)
    (parts : EntityParts python start finish numbers entity load)
    (timed : Timed (numbers.fileProgressRange entity))
    (ordered : InTimeOrder (numbers.fileProgressRange entity)) :
    EntityKnown start finish numbers load ↔ (numbers.held = true → ∀ total,
      riseOver python start finish ((numbers.recordsStart entity).getD 0)
        (numbers.recordsRange entity) (numbers.recordsEnd entity) = .finite total →
      0 < roundHalfEven total → ∀ ratio ∈ numbers.fileProgress entity, 0 < ratio →
        ∀ value ∈ numbers.fileProgressStart entity,
          GaugeSeen start finish value (numbers.fileProgressRange entity) ratio) := by
  have counts := extracted_iff python start finish numbers entity load.extracted parts.extracted
  have code := expected_iff python start finish numbers entity load parts
  have seen (ratio : ℚ) := gaugeSeen_iff start finish later (numbers.fileProgressRange entity) timed
    ordered (numbers.fileProgressStart entity) ratio
  have covers : ∀ expected ∈ load.expected, ∃ count ∈ load.extracted, count ≤ expected := by
    intro expected known
    obtain ⟨⟨count, counted, positive⟩, _⟩ := code.mp (by rw [known]; rfl)
    obtain ⟨_, total, rise, rounded⟩ := (counts count).mp counted
    have exact : python.nearest count = .finite count := by
      rw [rounded]
      rcases sumOfRises_rounded python _ _ total rise with rfl | ⟨other, same⟩
      · have zero : roundHalfEven 0 = 0 := by decide +kernel
        exact absurd (rounded.trans zero) positive.ne'
      · exact rounding.whole total (rounding.fixed other total same)
    have made := parts.expected
    rw [counted, known] at made
    exact ⟨count, counted, le_expectedRecords python rounding count _ exact expected made⟩
  have waiting : load.waitingForCheckpoint = true →
      load.fileProgress = none ∧ load.expected = none := by
    intro waits
    rw [parts.waiting] at waits
    have none : load.fileProgress = none := by
      rw [parts.ratio]
      exact if_pos waits
    have made := parts.expected
    rw [none] at made
    refine ⟨none, ?_⟩
    cases extracted : load.extracted with
    | none => rw [extracted] at made; exact (Except.ok.inj made).symm
    | some count => rw [extracted] at made; exact (Except.ok.inj made).symm
  constructor
  · rintro ⟨known, _, _⟩ held total rise positive ratio given share
    rw [parts.named] at known
    have counted : ∃ count ∈ load.extracted, 0 < count :=
      ⟨_, (counts _).mpr ⟨held, total, rise, rfl⟩, positive⟩
    refine (seen ratio).mp ?_
    rw [code, and_iff_right counted, and_iff_right held, and_iff_right counted] at known
    simp only [Option.mem_def.mp given, Option.mem_some_iff, exists_eq_left', share, true_and]
      at known
    exact known
  · intro gauges
    refine ⟨?_, covers, waiting⟩
    rw [parts.named, code]
    constructor
    · rintro ⟨⟨count, counted, positive⟩, ratio, given, share, moved⟩
      obtain ⟨held, total, rise, rounded⟩ := (counts count).mp counted
      rw [rounded] at positive
      exact ⟨held, ⟨count, counted, rounded ▸ positive⟩, ratio, given, share,
        ((seen ratio).mpr (gauges held total rise positive ratio given share)).mp moved⟩
    · rintro ⟨held, ⟨count, counted, positive⟩, ratio, given, share, moved⟩
      obtain ⟨_, total, rise, rounded⟩ := (counts count).mp counted
      rw [rounded] at positive
      exact ⟨⟨count, counted, rounded ▸ positive⟩, ratio, given, share,
        ((seen ratio).mpr (gauges held total rise positive ratio given share)).mpr moved⟩

end Entities

section Runs

variable (python : Python) (start finish : Double)

/-- A shaped run has the entities and the loads of its pipeline. -/
structure RunParts (numbers : RunNumbers) (pipeline : RunPipeline) (load : RunLoad) : Prop where
  entities : pipeline.entityTypes.mapM (shapeEntity python start finish numbers) = .ok load.entities
  queues : ((consumedQueues pipeline).mapM fun consumed =>
    shapeLoad python start finish numbers consumed.1 consumed.2) = .ok load.queues

theorem shapeRun_parts (numbers : RunNumbers) (pipeline : RunPipeline) (load : RunLoad)
    (done : shapeRun python start finish numbers pipeline = .ok load) :
    RunParts python start finish numbers pipeline load := by
  obtain ⟨entities, one, done⟩ := (bind_eq_ok_iff _ _ _).mp done
  obtain ⟨queues, two, done⟩ := (bind_eq_ok_iff _ _ _).mp done
  obtain ⟨first, _, done⟩ := (bind_eq_ok_iff _ _ _).mp done
  obtain ⟨last, _, done⟩ := (bind_eq_ok_iff _ _ _).mp done
  cases done
  exact ⟨one, two⟩

/-- A load names its queue, and it is null exactly without a baseline. -/
theorem shapeLoad_parts (numbers : RunNumbers) (consumer : String) (queue : Browser.TopologyQueue)
    (load : QueueLoad)
    (done : shapeLoad python start finish numbers consumer queue = .ok load) :
    (load.consumer, load.queue, load.entity) = (consumer, queue.name, queue.entity) ∧
      (load.loaded = none ↔ numbers.ackedStart queue.name = none) := by
  obtain ⟨loaded, one, done⟩ := (bind_eq_ok_iff _ _ _).mp done
  obtain ⟨points, _, done⟩ := (bind_eq_ok_iff _ _ _).mp done
  cases done
  refine ⟨rfl, ?_⟩
  unfold ackedIncrease at one
  cases based : numbers.ackedStart queue.name with
  | none =>
      rw [based] at one
      cases one
      exact iff_of_true rfl rfl
  | some baseline =>
      rw [based, lastIncrease_some] at one
      obtain ⟨total, _, same⟩ := (bind_eq_ok_iff _ _ _).mp one
      cases same
      exact iff_of_false (by simp) (by simp)

/-- A shaped run is known exactly if each of its gauges is seen inside the run. -/
theorem knownLoad_iff (rounding : Rounding python.nearest) (later : start.lt finish = true)
    (pipeline : RunPipeline) (results : List (String × List Json)) (read : RunRead python results)
    (timed : SampleTimes python results) (load : RunLoad)
    (done : shapeProgress python pipeline start finish results = .ok load) :
    KnownLoad python start finish pipeline results load ↔
      GaugesSeen python start finish (toldNumbers python results) pipeline := by
  obtain ⟨readings, one, made⟩ := (bind_eq_ok_iff _ _ _).mp done
  rw [readRun_numbers python results readings one] at made
  obtain ⟨entities, queues⟩ := shapeRun_parts python start finish _ pipeline load made
  have ordered (entity : String) := rangePoints_ordered python "entity" entity _
    (timed ("file_progress_range", "entity") (by simp [rangeQueries]))
  have known (entity : String) (part : EntityLoad)
      (shaped : shapeEntity python start finish (toldNumbers python results) entity = .ok part) :=
    entityKnown_iff python start finish _ rounding later entity part
      (shapeEntity_parts python start finish _ entity part shaped) (ordered entity).1
      (ordered entity).2
  constructor
  · rintro ⟨_, _, all, _, _⟩ entity member
    obtain ⟨part, inside, shaped⟩ := mapM_mem _ _ _ entities entity member
    exact (known entity part shaped).mp (all part inside)
  · intro seen
    refine ⟨?_, ?_, ?_, ?_, ?_⟩
    · refine (map_eq_of_forall₂ ((mapM_eq_ok_iff _ _ _).mp entities) id EntityLoad.entity ?_).symm.trans (List.map_id _)
      intro entity part shaped
      exact (shapeEntity_parts python start finish _ entity part shaped).named.symm
    · refine (map_eq_of_forall₂ ((mapM_eq_ok_iff _ _ _).mp queues) _ _ ?_).symm
      intro consumed part shaped
      exact (shapeLoad_parts python start finish _ consumed.1 consumed.2 part shaped).1.symm
    · intro part member
      obtain ⟨entity, inside, shaped⟩ := mem_of_mapM _ _ _ entities part member
      exact (known entity part shaped).mpr (seen entity inside)
    · intro part member
      obtain ⟨consumed, _, shaped⟩ := mem_of_mapM _ _ _ queues part member
      obtain ⟨names, loaded⟩ := shapeLoad_parts python start finish _ consumed.1 consumed.2 part shaped
      rw [loaded, (Prod.mk.inj (Prod.mk.inj names).2).1]
    · intro other read' timed' same
      rw [← done]
      exact shapeProgress_sameAfter python start finish later pipeline results other read read' timed
        timed' same

end Runs

/-- The shape of a run guesses no total exactly if the results can be shaped and each gauge is seen
inside the run. -/
theorem neverGuesses_iff (python : Python) (rounding : Rounding python.nearest) (start finish : Double)
    (later : start.lt finish = true) (pipeline : RunPipeline) (results : List (String × List Json))
    (timed : SampleTimes python results) :
    NeverGuesses python start finish pipeline results ↔
      RunShaped python start finish pipeline results ∧
        GaugesSeen python start finish (toldNumbers python results) pipeline := by
  constructor
  · rintro ⟨load, done, known⟩
    have shaped := (returns_shapeProgress_iff python start finish pipeline results).mp ⟨load, done⟩
    exact ⟨shaped, (knownLoad_iff python start finish rounding later pipeline results shaped.read timed
      load done).mp known⟩
  · rintro ⟨shaped, seen⟩
    obtain ⟨load, done⟩ :=
      (returns_shapeProgress_iff python start finish pipeline results).mpr shaped
    exact ⟨load, done, (knownLoad_iff python start finish rounding later pipeline results shaped.read
      timed load done).mpr seen⟩

section OneRun

/-- This reader knows some numbers and the dates of one run, and its arithmetic is exact. -/
def exactReader : Python where
  float text :=
    if text = literal "0" then some (.finite 0)
    else if text = literal "50" then some (.finite 50)
    else if text = literal "1" then some (.finite 1)
    else if text = literal "0.25" then some (.finite (1 / 4))
    else none
  nearest := .finite
  sum values := .finite values.sum
  isoformat time :=
    if time = 1767225600 then "2026-01-01T00:00:00+00:00" else "2026-01-01T00:01:59.600000+00:00"
  undated _ := .valueError
  arrange times := times
  arrangeValues values := values
  arrange_perm _ := .rfl
  arrangeValues_perm _ := .rfl

theorem exactReader_rounding : Rounding exactReader.nearest where
  monotone _ _ ordered := decide_eq_false (not_lt.mpr ordered)
  fixed _ _ _ := rfl
  whole _ _ := rfl

def artistsRun : RunPipeline where
  id := "discogs"
  consumers := []
  entityTypes := ["artists"]

/-- A series of one label has a sample, or the samples of a range. -/
def instantOf (label name number : String) : Json := .dict
  [(literal "metric", .dict [(literal label, .text (literal name))]),
    (literal "value", .list [.int 1767225600, .text (literal number)])]

def rangeOf (label name : String) (values : List (ℤ × String)) : Json := .dict
  [(literal "metric", .dict [(literal label, .text (literal name))]),
    (literal "values", .list (values.map fun value =>
      .list [.int value.1, .text (literal value.2)]))]

/-- An extractor counts fifty records in a run, and its gauge has these samples. -/
def gaugeResults (ratio : String) (values : List (ℤ × String)) : List (String × List Json) :=
  [("acked_start", [instantOf "queue" "q" "0"]), ("acked_end", []), ("acked_range", []),
    ("records_start", []), ("records_end", [instantOf "entity" "artists" "50"]),
    ("records_range", []), ("file_progress", [instantOf "entity" "artists" ratio]),
    ("file_progress_start", [instantOf "entity" "artists" "1"]),
    ("file_progress_range", [rangeOf "entity" "artists" values])]

def runStart : Double := .finite 1767225600

/-- The run ends 119.6 seconds after its start. -/
def runFinish : Double := .finite (17672257196 / 10)

theorem sampleTimes_of_gauge (ratio : String) (values : List (ℤ × String))
    (timed : Timed (timedPoints exactReader (rangeOf "entity" "artists" values))) :
    SampleTimes exactReader (gaugeResults ratio values) := by
  intro query listed series member
  unfold rangeQueries at listed
  rcases List.mem_cons.mp listed with rfl | listed
  · exact absurd member List.not_mem_nil
  rcases List.mem_pair.mp listed with rfl | rfl
  · exact absurd member List.not_mem_nil
  · rw [List.mem_singleton.mp member]
    exact timed

/-- The gauge moved to a quarter inside the run, so fifty records are a quarter of the file. -/
theorem neverGuesses_moved : NeverGuesses exactReader runStart runFinish artistsRun
    (gaugeResults "0.25" [(1767225660, "0.25")]) := by
  have points : timedPoints exactReader (rangeOf "entity" "artists" [(1767225660, "0.25")]) =
      [⟨⟨.finite 1767225660, none⟩, 1 / 4⟩] := by
    decide +kernel
  refine (neverGuesses_iff exactReader exactReader_rounding runStart runFinish (by decide +kernel)
    artistsRun _ ?_).mpr ⟨?_, ?_⟩
  · refine sampleTimes_of_gauge _ _ ?_
    rw [points]
    simp [Timed, TimedValue.time]
  · refine (returns_shapeProgress_iff exactReader runStart runFinish artistsRun _).mp
      ⟨⟨"discogs", "2026-01-01T00:00:00+00:00", "2026-01-01T00:01:59.600000+00:00",
        [⟨"artists", some 50, some (1 / 4), some 200, false⟩], []⟩, ?_⟩
    decide +kernel
  · intro entity member _ _ _ _ ratio _ _ value _
    rw [List.mem_singleton.mp member]
    have range : (toldNumbers exactReader
        (gaugeResults "0.25" [(1767225660, "0.25")])).fileProgressRange "artists" = [⟨⟨.finite 1767225660, none⟩, 1 / 4⟩] := by
      decide +kernel
    rw [range]
    have before : runFinish.le (.finite 1767225660) = false ∧
        runFinish.lt (.finite 1767225660) = false := by
      decide +kernel
    refine ⟨?_, ?_⟩
    · intro point inside late
      rw [List.mem_singleton.mp inside] at late
      exact absurd (before.2.symm.trans late) Bool.false_ne_true
    · intro _ final inside reached
      rw [List.mem_singleton.mp inside] at reached
      exact absurd (before.1.symm.trans reached) Bool.false_ne_true

/-- The gauge of the previous run moves after the end, and its ratio is trusted. -/
theorem neverGuesses_fails : Rounding exactReader.nearest ∧ runStart.lt runFinish = true ∧
    SampleTimes exactReader (gaugeResults "1" [(1767225660, "1"), (1767225720, "0.25")]) ∧
      ¬NeverGuesses exactReader runStart runFinish artistsRun
        (gaugeResults "1" [(1767225660, "1"), (1767225720, "0.25")]) := by
  have points : timedPoints exactReader
      (rangeOf "entity" "artists" [(1767225660, "1"), (1767225720, "0.25")]) =
        [⟨⟨.finite 1767225660, none⟩, 1⟩, ⟨⟨.finite 1767225720, none⟩, 1 / 4⟩] := by
    decide +kernel
  refine ⟨exactReader_rounding, by decide +kernel, sampleTimes_of_gauge _ _ ?_, ?_⟩
  · rw [points]
    simp [Timed, TimedValue.time]
  rintro ⟨load, done, known⟩
  have guessed : shapeProgress exactReader artistsRun runStart runFinish
      (gaugeResults "1" [(1767225660, "1"), (1767225720, "0.25")]) =
        .ok ⟨"discogs", "2026-01-01T00:00:00+00:00", "2026-01-01T00:01:59.600000+00:00",
          [⟨"artists", some 50, some 1, some 50, false⟩], []⟩ := by
    decide +kernel
  rw [← Except.ok.inj (guessed.symm.trans done)] at known
  obtain ⟨_, _, ratio, given, _, moved⟩ :=
    (known.known ⟨"artists", some 50, some 1, some 50, false⟩ List.mem_cons_self).expected.mp rfl
  have final : (toldNumbers exactReader
      (gaugeResults "1" [(1767225660, "1"), (1767225720, "0.25")])).fileProgress "artists" = some 1 := by
    decide +kernel
  have initial : (toldNumbers exactReader
      (gaugeResults "1" [(1767225660, "1"), (1767225720, "0.25")])).fileProgressStart "artists" = some 1 := by
    decide +kernel
  have range : (toldNumbers exactReader
      (gaugeResults "1" [(1767225660, "1"), (1767225720, "0.25")])).fileProgressRange "artists" =
        [⟨⟨.finite 1767225660, none⟩, 1⟩, ⟨⟨.finite 1767225720, none⟩, 1 / 4⟩] := by
    decide +kernel
  have late : (Double.finite 1767225720).le runFinish = false := by decide +kernel
  rw [final, Option.mem_some_iff] at given
  rcases moved 1 initial with other | ⟨point, member, _, inside, other⟩
  · exact other given.symm
  · rw [range] at member
    rcases List.mem_pair.mp member with rfl | rfl
    · exact other rfl
    · exact absurd (late.symm.trans inside) Bool.false_ne_true

end OneRun

end OperationsConsole.History
