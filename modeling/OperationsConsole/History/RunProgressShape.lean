/-
This file decides when the run progress route answers, for the shapes of the answers of its queries.
A total that is out of range cannot be rounded.
-/

import OperationsConsole.History.RunReadings

namespace OperationsConsole.History

open Library
open Progress (RunPipeline)

section Reading

variable (python : Python) (results : List (String × List Json))

/-- The instant queries of a run and their labels. -/
def instantQueries : List (String × String) :=
  [("acked_start", "queue"), ("acked_end", "queue"), ("records_start", "entity"),
    ("records_end", "entity"), ("file_progress", "entity"), ("file_progress_start", "entity")]

/-- The range queries of a run and their labels. -/
def rangeQueries : List (String × String) :=
  [("acked_range", "queue"), ("records_range", "entity"), ("file_progress_range", "entity")]

/-- Every series of the nine results can be read. -/
structure RunRead : Prop where
  instants : ∀ query ∈ instantQueries, ∀ series ∈ rowsNamed results query.1,
    InstantRead python query.2 series
  ranges : ∀ query ∈ rangeQueries, ∀ series ∈ rowsNamed results query.1,
    RangeRead python query.2 series

/-- The results tell these numbers of the names of a pipeline. -/
def toldNumbers : RunNumbers where
  held := hasNumber python "queue" (rowsNamed results "acked_start")
  ackedStart := fun name => instantSample python "queue" name (rowsNamed results "acked_start")
  ackedEnd := fun name => instantSample python "queue" name (rowsNamed results "acked_end")
  ackedRange := fun name => rangePoints python "queue" name (rowsNamed results "acked_range")
  recordsStart := fun name => instantSample python "entity" name (rowsNamed results "records_start")
  recordsEnd := fun name => instantSample python "entity" name (rowsNamed results "records_end")
  recordsRange := fun name => rangePoints python "entity" name (rowsNamed results "records_range")
  fileProgress := fun name => instantSample python "entity" name (rowsNamed results "file_progress")
  fileProgressStart := fun name =>
    instantSample python "entity" name (rowsNamed results "file_progress_start")
  fileProgressRange := fun name =>
    rangePoints python "entity" name (rowsNamed results "file_progress_range")

/-- A gauge is held exactly if some series has a number. -/
theorem held_eq (result : List Json) (values : Dict Label ℚ)
    (done : instantValues python "queue" result = .ok values) :
    (!values.items.isEmpty) = hasNumber python "queue" result := by
  rw [Bool.eq_iff_iff, isEmpty_items_iff, hasNumber_iff]
  exact instantValues_held_iff python "queue" result values done

/-- The readings of a run are those of its nine results. -/
structure ReadingsOf (readings : RunReadings) : Prop where
  ackedStart : instantValues python "queue" (rowsNamed results "acked_start") =
    .ok readings.ackedStart
  ackedEnd : instantValues python "queue" (rowsNamed results "acked_end") = .ok readings.ackedEnd
  ackedRange : rangeValues python "queue" (rowsNamed results "acked_range") =
    .ok readings.ackedRange
  recordsStart : instantValues python "entity" (rowsNamed results "records_start") =
    .ok readings.recordsStart
  recordsEnd : instantValues python "entity" (rowsNamed results "records_end") =
    .ok readings.recordsEnd
  recordsRange : rangeValues python "entity" (rowsNamed results "records_range") =
    .ok readings.recordsRange
  fileProgress : instantValues python "entity" (rowsNamed results "file_progress") =
    .ok readings.fileProgress
  fileProgressStart : instantValues python "entity" (rowsNamed results "file_progress_start") =
    .ok readings.fileProgressStart
  fileProgressRange : rangeValues python "entity" (rowsNamed results "file_progress_range") =
    .ok readings.fileProgressRange

/-- The readings of a run are read from its results, one by one. -/
theorem readRun_eq_ok_iff (readings : RunReadings) :
    readRun python results = .ok readings ↔ ReadingsOf python results readings := by
  unfold readRun
  constructor
  · intro done
    obtain ⟨ackedStart, one, done⟩ := (bind_eq_ok_iff _ _ _).mp done
    obtain ⟨ackedEnd, two, done⟩ := (bind_eq_ok_iff _ _ _).mp done
    obtain ⟨ackedRange, three, done⟩ := (bind_eq_ok_iff _ _ _).mp done
    obtain ⟨recordsStart, four, done⟩ := (bind_eq_ok_iff _ _ _).mp done
    obtain ⟨recordsEnd, five, done⟩ := (bind_eq_ok_iff _ _ _).mp done
    obtain ⟨recordsRange, six, done⟩ := (bind_eq_ok_iff _ _ _).mp done
    obtain ⟨fileProgress, seven, done⟩ := (bind_eq_ok_iff _ _ _).mp done
    obtain ⟨fileProgressStart, eight, done⟩ := (bind_eq_ok_iff _ _ _).mp done
    obtain ⟨fileProgressRange, nine, done⟩ := (bind_eq_ok_iff _ _ _).mp done
    rw [← Except.ok.inj done]
    exact ⟨one, two, three, four, five, six, seven, eight, nine⟩
  · rintro ⟨one, two, three, four, five, six, seven, eight, nine⟩
    refine (bind_eq_ok_iff _ _ _).mpr ⟨_, one, (bind_eq_ok_iff _ _ _).mpr ⟨_, two, ?_⟩⟩
    refine (bind_eq_ok_iff _ _ _).mpr ⟨_, three, (bind_eq_ok_iff _ _ _).mpr ⟨_, four, ?_⟩⟩
    refine (bind_eq_ok_iff _ _ _).mpr ⟨_, five, (bind_eq_ok_iff _ _ _).mpr ⟨_, six, ?_⟩⟩
    refine (bind_eq_ok_iff _ _ _).mpr ⟨_, seven, (bind_eq_ok_iff _ _ _).mpr ⟨_, eight, ?_⟩⟩
    exact (bind_eq_ok_iff _ _ _).mpr ⟨_, nine, rfl⟩

/-- The results of a run are read exactly if each of their series can be. -/
theorem returns_readRun_iff : Returns (readRun python results) ↔ RunRead python results := by
  have instant (label : String) (result : List Json) :=
    returns_instantValues_iff python label result
  have range (label : String) (result : List Json) := returns_rangeValues_iff python label result
  constructor
  · rintro ⟨readings, done⟩
    obtain ⟨one, two, three, four, five, six, seven, eight, nine⟩ :=
      (readRun_eq_ok_iff python results readings).mp done
    refine ⟨?_, ?_⟩
    · unfold instantQueries
      simp only [List.forall_mem_cons]
      exact ⟨(instant _ _).mp ⟨_, one⟩, (instant _ _).mp ⟨_, two⟩, (instant _ _).mp ⟨_, four⟩,
        (instant _ _).mp ⟨_, five⟩, (instant _ _).mp ⟨_, seven⟩, (instant _ _).mp ⟨_, eight⟩,
        by simp⟩
    · unfold rangeQueries
      simp only [List.forall_mem_cons]
      exact ⟨(range _ _).mp ⟨_, three⟩, (range _ _).mp ⟨_, six⟩, (range _ _).mp ⟨_, nine⟩, by simp⟩
  · rintro ⟨instants, ranges⟩
    unfold instantQueries at instants
    unfold rangeQueries at ranges
    simp only [List.forall_mem_cons] at instants ranges
    obtain ⟨one, two, four, five, seven, eight, _⟩ := instants
    obtain ⟨three, six, nine, _⟩ := ranges
    obtain ⟨ackedStart, one⟩ := (instant _ _).mpr one
    obtain ⟨ackedEnd, two⟩ := (instant _ _).mpr two
    obtain ⟨ackedRange, three⟩ := (range _ _).mpr three
    obtain ⟨recordsStart, four⟩ := (instant _ _).mpr four
    obtain ⟨recordsEnd, five⟩ := (instant _ _).mpr five
    obtain ⟨recordsRange, six⟩ := (range _ _).mpr six
    obtain ⟨fileProgress, seven⟩ := (instant _ _).mpr seven
    obtain ⟨fileProgressStart, eight⟩ := (instant _ _).mpr eight
    obtain ⟨fileProgressRange, nine⟩ := (range _ _).mpr nine
    exact ⟨⟨ackedStart, ackedEnd, ackedRange, recordsStart, recordsEnd, recordsRange, fileProgress,
      fileProgressStart, fileProgressRange⟩, (readRun_eq_ok_iff python results _).mpr
        ⟨one, two, three, four, five, six, seven, eight, nine⟩⟩

/-- The shaping sees the numbers that the results tell. -/
theorem readRun_numbers (readings : RunReadings) (done : readRun python results = .ok readings) :
    readings.numbers = toldNumbers python results := by
  obtain ⟨one, two, three, four, five, six, seven, eight, nine⟩ :=
    (readRun_eq_ok_iff python results readings).mp done
  unfold RunReadings.numbers toldNumbers
  rw [held_eq python _ _ one]
  congr 1
  · exact funext fun name => get?_instantValues python _ name _ _ one
  · exact funext fun name => get?_instantValues python _ name _ _ two
  · exact funext fun name => get?_rangeValues python _ name _ _ three
  · exact funext fun name => get?_instantValues python _ name _ _ four
  · exact funext fun name => get?_instantValues python _ name _ _ five
  · exact funext fun name => get?_rangeValues python _ name _ _ six
  · exact funext fun name => get?_instantValues python _ name _ _ seven
  · exact funext fun name => get?_instantValues python _ name _ _ eight
  · exact funext fun name => get?_rangeValues python _ name _ _ nine

end Reading

section Totals

variable (python : Python) (start finish : Double)

/-- The sample at the end closes those of the range, unless the range reaches the end. -/
def closed (points : List TimedValue) (last : Option ℚ) : List TimedValue :=
  points ++ if ∃ final ∈ points.getLast?, finish.le final.time = true then []
    else last.toList.map fun value => ⟨⟨finish, none⟩, value⟩

/-- The value at the end closes the points. -/
theorem withEnd_eq (points : List TimedValue) (last : Option ℚ) :
    withEnd points finish last = closed finish points last := by
  unfold withEnd closed
  cases last with
  | none =>
      rw [Option.toList_none, List.map_nil, ite_self, List.append_nil]
  | some value =>
      dsimp only
      have reached : (points.getLast?.any fun point => finish.le point.time) = true ↔
          ∃ final ∈ points.getLast?, finish.le final.time = true := by
        cases points.getLast? <;> simp
      by_cases holds : ∃ final ∈ points.getLast?, finish.le final.time = true
      · rw [if_pos (reached.mpr holds), if_pos holds, List.append_nil]
      · rw [if_neg (mt reached.mp holds), if_neg holds]
        rfl

/-- The samples of a run come after its start. -/
def runSamples (points : List TimedValue) (last : Option ℚ) : List TimedValue :=
  (closed finish points last).filter fun point => !point.time.le start

/-- A sample adds its difference to the one before it, or all of it if it is less. -/
def riseOf (previous value : ℚ) : Double :=
  if previous ≤ value then python.nearest (value - previous) else .finite value

/-- The rises of the samples are added from left to right. -/
def sumOfRises (total : Double) (previous : ℚ) (values : List ℚ) : Double :=
  (List.zipWith (riseOf python) (previous :: values) values).foldl (Double.add python.nearest) total

/-- A sum of rises adds the next rise and goes on. -/
theorem sumOfRises_cons (total : Double) (previous value : ℚ) (values : List ℚ) :
    sumOfRises python total previous (value :: values) =
      sumOfRises python (Double.add python.nearest total (growth python previous value)) value
        values := by
  have same : riseOf python previous value = growth python previous value := by
    unfold riseOf growth Double.sub Double.neg Double.add
    rw [sub_eq_add_neg]
  unfold sumOfRises
  rw [List.zipWith_cons_cons, List.foldl_cons, same]

def lateSamples (points : List TimedValue) : List TimedValue :=
  points.filter fun point => !point.time.le start

/-- A sample before the start is left out. -/
theorem lateSamples_skip (point : TimedValue) (rest : List TimedValue)
    (early : point.time.le start = true) : lateSamples start (point :: rest) = lateSamples start rest :=
  List.filter_cons_of_neg (by simp [early])

/-- The samples from the first late one on are kept. -/
theorem lateSamples_keep (point : TimedValue) (rest : List TimedValue)
    (late : ¬point.time.le start = true) :
    lateSamples start (point :: rest) = point :: lateSamples start rest :=
  List.filter_cons_of_pos (by simpa using late)

/-- There is an increase at the time of each sample after the start. -/
theorem increasesFrom_times (previous : ℚ) (total : Double) (points : List TimedValue) :
    (increasesFrom python start previous total points).map TimedIncrease.time =
      (lateSamples start points).map TimedValue.time := by
  induction points generalizing previous total with
  | nil => rfl
  | cons point rest ih =>
      rw [increasesFrom]
      by_cases early : point.time.le start = true
      · rw [if_pos early, lateSamples_skip start point rest early]
        exact ih previous total
      · rw [if_neg early, lateSamples_keep start point rest early, List.map_cons, List.map_cons]
        exact congrArg _ (ih point.value _)

/-- The last increase is the sum of the rises. -/
theorem increasesFrom_last (previous : ℚ) (total : Double) (points : List TimedValue) :
    ((increasesFrom python start previous total points).getLast?.map TimedIncrease.total).getD
        total =
      sumOfRises python total previous ((lateSamples start points).map TimedValue.value) := by
  induction points generalizing previous total with
  | nil => rfl
  | cons point rest ih =>
      rw [increasesFrom]
      by_cases early : point.time.le start = true
      · rw [if_pos early, lateSamples_skip start point rest early]
        exact ih previous total
      · rw [if_neg early, lateSamples_keep start point rest early, List.map_cons, sumOfRises_cons,
          ← ih, List.getLast?_cons]
        cases (increasesFrom python start point.value _ rest).getLast? <;> rfl

/-- A total out of range stays out of range, so the last one tells all of them. -/
theorem increasesFrom_finite_iff (previous : ℚ) (total : Double) (points : List TimedValue) :
    (total.isFinite = true ∧ ∀ point ∈ increasesFrom python start previous total points,
        point.total.isFinite = true) ↔
      (sumOfRises python total previous
        ((lateSamples start points).map TimedValue.value)).isFinite = true := by
  induction points generalizing previous total with
  | nil => exact and_iff_left fun point member => absurd member List.not_mem_nil
  | cons point rest ih =>
      rw [increasesFrom]
      by_cases early : point.time.le start = true
      · rw [if_pos early, lateSamples_skip start point rest early]
        exact ih previous total
      · rw [if_neg early, lateSamples_keep start point rest early, List.map_cons, sumOfRises_cons,
          ← ih, List.forall_mem_cons]
        exact and_iff_right_of_imp fun both => Double.isFinite_of_add python.nearest _ _ both.1

end Totals

section Shaping

variable (python : Python) (start finish : Double) (numbers : RunNumbers)

/-- Only a finite number is rounded. -/
theorem returns_roundDouble_iff (value : Double) :
    Returns (roundDouble value) ↔ value.isFinite = true := by
  cases value with
  | finite value => exact iff_of_true (Returns.ok _) rfl
  | infinite negative => exact iff_of_false (Returns.error _) Bool.false_ne_true
  | nan => exact iff_of_false (Returns.error _) Bool.false_ne_true

/-- The rises of a run over its baseline. -/
def riseOver (baseline : ℚ) (points : List TimedValue) (last : Option ℚ) : Double :=
  sumOfRises python (.finite 0) baseline ((runSamples start finish points last).map TimedValue.value)

/-- The increase of a run is rounded. -/
theorem lastIncrease_some (baseline : ℚ) (points : List TimedValue) (last : Option ℚ) :
    lastIncrease (counterIncrease python (some baseline) (withEnd points finish last) start) =
      some <$> roundDouble (riseOver python start finish baseline points last) := by
  have ends := increasesFrom_last python start baseline (.finite 0) (closed finish points last)
  unfold lastIncrease counterIncrease riseOver
  rw [withEnd_eq, Option.map_some]
  change _ = some <$> roundDouble (sumOfRises python (.finite 0) baseline
    ((lateSamples start (closed finish points last)).map TimedValue.value))
  rw [← ends]
  dsimp only
  cases increasesFrom python start baseline (.finite 0) (closed finish points last) |>.getLast? with
  | none =>
      have zero : roundHalfEven 0 = 0 := by decide +kernel
      exact congrArg (fun total => Except.ok (some total)) zero.symm
  | some last => rfl

/-- The number of records that a ratio leads to is in range. -/
def ExpectedFinite (extracted : ℤ) (ratio : ℚ) : Prop :=
  0 < extracted → 0 < ratio → ∃ records, python.nearest extracted = .finite records ∧
    (python.nearest (records / min ratio 1)).isFinite = true

/-- The expected records are a number exactly if their quotient is finite. -/
theorem returns_expectedRecords_iff (extracted : ℤ) (ratio : ℚ) :
    Returns (expectedRecords python (some extracted) (some ratio)) ↔
      ExpectedFinite python extracted ratio := by
  unfold expectedRecords ExpectedFinite
  dsimp only
  split
  · rename_i unknown
    refine iff_of_true (Returns.ok _) ?_
    intro counted moved
    rcases unknown with none | none
    · exact absurd counted (not_lt.mpr none)
    · exact absurd moved (not_lt.mpr none)
  · rename_i known
    rw [not_or, not_le, not_le] at known
    have divisor : min ratio 1 ≠ 0 := ne_of_gt (lt_min known.2 one_pos)
    rw [forall_prop_of_true known.1, forall_prop_of_true known.2]
    unfold Python.toFloat
    dsimp only
    cases python.nearest extracted with
    | finite records =>
        change Returns (Double.div python.nearest (.finite records) (.finite (min ratio 1)) >>=
          fun expected => roundDouble expected >>= fun rounded => pure (some rounded)) ↔ _
        rw [Double.finite_div _ _ _ divisor]
        change Returns (roundDouble (python.nearest (records / min ratio 1)) >>=
          fun rounded => pure (some rounded)) ↔ _
        rw [Returns.bind_iff]
        constructor
        · rintro ⟨rounded, done, _⟩
          exact ⟨records, rfl, (returns_roundDouble_iff _).mp ⟨rounded, done⟩⟩
        · rintro ⟨other, same, finite⟩
          rw [← Double.finite.inj same] at finite
          obtain ⟨rounded, done⟩ := (returns_roundDouble_iff _).mpr finite
          exact ⟨rounded, done, Returns.pure _⟩
    | infinite negative => exact iff_of_false (Returns.error _) (by simp)
    | nan => exact iff_of_false (Returns.error _) (by simp)

/-- A gauge without a value at the start has a sample after it, and the others have another value
after it. -/
def MovedAfter (initial : Option ℚ) (samples : List TimedValue) : Prop :=
  ∃ point ∈ samples, start.lt point.time = true ∧ ∀ value ∈ initial, point.value ≠ value

/-- A gauge moved exactly if some sample after the start differs from the first value. -/
theorem gaugeMoved_iff (initial : Option ℚ) (points : List TimedValue) :
    gaugeMoved initial points start = true ↔ MovedAfter start initial points := by
  unfold gaugeMoved MovedAfter
  cases initial with
  | none => simp [List.filter_eq_nil_iff]
  | some value => simp

/-- A ratio waits for a checkpoint unless its gauge moved. -/
theorem waitingForCheckpoint_eq (entity : String) (ratio : ℚ)
    (given : numbers.fileProgress entity = some ratio) :
    waitingForCheckpoint start finish numbers entity = !gaugeMoved (numbers.fileProgressStart entity)
      (closed finish (numbers.fileProgressRange entity) (some ratio)) start := by
  unfold waitingForCheckpoint
  rw [given, ← withEnd_eq]
  exact Bool.true_and _

/-- The ratio of an entity is trusted if its gauge moved. -/
theorem trustedRatio_eq_some_iff (entity : String) (ratio : ℚ) :
    trustedRatio start finish numbers entity = some ratio ↔
      numbers.fileProgress entity = some ratio ∧
        MovedAfter start (numbers.fileProgressStart entity)
          (closed finish (numbers.fileProgressRange entity) (some ratio)) := by
  unfold trustedRatio
  rw [← gaugeMoved_iff]
  cases given : numbers.fileProgress entity with
  | none => simp
  | some other =>
      rw [waitingForCheckpoint_eq start finish numbers entity other given]
      cases moved : gaugeMoved (numbers.fileProgressStart entity)
          (closed finish (numbers.fileProgressRange entity) (some other)) start with
      | false =>
          refine iff_of_false (by simp) ?_
          rintro ⟨same, held⟩
          rw [← Option.some.inj same, moved] at held
          cases held
      | true =>
          refine ⟨fun same => ⟨same, ?_⟩, And.left⟩
          rw [← Option.some.inj same]
          exact moved

/-- The total of an entity and the number of records that it will have are in range. -/
structure EntityFinite (entity : String) : Prop where
  extracted : numbers.held = true → (riseOver python start finish
    ((numbers.recordsStart entity).getD 0) (numbers.recordsRange entity)
      (numbers.recordsEnd entity)).isFinite = true
  expected : ∀ total ratio, numbers.held = true → riseOver python start finish
    ((numbers.recordsStart entity).getD 0) (numbers.recordsRange entity)
      (numbers.recordsEnd entity) = .finite total → numbers.fileProgress entity = some ratio →
    MovedAfter start (numbers.fileProgressStart entity)
      (closed finish (numbers.fileProgressRange entity) (some ratio)) →
    ExpectedFinite python (roundHalfEven total) ratio

/-- The expected records fail only for two known numbers without a finite quotient. -/
theorem returns_expectedRecords_of (extracted : Option ℤ) (ratio : Option ℚ) :
    Returns (expectedRecords python extracted ratio) ↔ ∀ count share, extracted = some count →
      ratio = some share → ExpectedFinite python count share := by
  cases extracted with
  | none => exact iff_of_true (Returns.ok _) (by simp)
  | some count =>
      cases ratio with
      | none => exact iff_of_true (Returns.ok _) (by simp)
      | some share =>
          rw [returns_expectedRecords_iff]
          constructor
          · rintro finite _ _ ⟨⟩ ⟨⟩
            exact finite
          · intro all
            exact all count share rfl rfl

/-- An entity type is shaped exactly if its numbers are finite. -/
theorem returns_shapeEntity_iff (entity : String) :
    Returns (shapeEntity python start finish numbers entity) ↔
      EntityFinite python start finish numbers entity := by
  unfold shapeEntity recordsIncrease recordsBaseline
  cases held : numbers.held with
  | false =>
      refine iff_of_true ?_ ⟨by simp [held], by simp [held]⟩
      refine (Returns.bind_iff _ _).mpr ⟨none, rfl, Returns.bind_of_total _ _ ?_ |>.mpr ?_⟩
      · exact fun expected => Returns.pure _
      · exact (returns_expectedRecords_of python _ _).mpr (by simp)
  | true =>
      rw [if_pos rfl, lastIncrease_some, Returns.bind_iff]
      constructor
      · rintro ⟨extracted, one, returns⟩
        obtain ⟨expected, two, _⟩ := (Returns.bind_iff _ _).mp returns
        refine ⟨fun _ => (returns_roundDouble_iff _).mp ((Returns.map_iff _ _).mp ⟨_, one⟩), ?_⟩
        intro total ratio _ known given moved
        rw [known] at one
        rw [← Except.ok.inj one] at two
        exact (returns_expectedRecords_of python _ _).mp ⟨expected, two⟩ _ ratio rfl
          ((trustedRatio_eq_some_iff start finish numbers entity ratio).mpr ⟨given, moved⟩)
      · rintro ⟨finite, expected⟩
        obtain ⟨total, known⟩ : ∃ total, riseOver python start finish
            ((numbers.recordsStart entity).getD 0) (numbers.recordsRange entity)
              (numbers.recordsEnd entity) = .finite total := by
          have ranged := finite held
          cases value : riseOver python start finish ((numbers.recordsStart entity).getD 0)
              (numbers.recordsRange entity) (numbers.recordsEnd entity) with
          | finite total => exact ⟨total, rfl⟩
          | infinite negative => rw [value] at ranged; cases ranged
          | nan => rw [value] at ranged; cases ranged
        rw [known]
        refine ⟨some (roundHalfEven total), rfl, (Returns.bind_of_total _ _ fun expected =>
          Returns.pure _).mpr ((returns_expectedRecords_of python _ _).mpr ?_)⟩
        rintro _ ratio ⟨⟩ trusted
        obtain ⟨given, moved⟩ :=
          (trustedRatio_eq_some_iff start finish numbers entity ratio).mp trusted
        exact expected total ratio held known given moved

/-- The samples of a queue with a baseline have dates, and its total is in range. -/
structure QueueFinite (queue : String) : Prop where
  dated : ∀ baseline, numbers.ackedStart queue = some baseline →
    ∀ point ∈ runSamples start finish (numbers.ackedRange queue) (numbers.ackedEnd queue),
      Dated python point.time
  total : ∀ baseline, numbers.ackedStart queue = some baseline →
    (riseOver python start finish baseline (numbers.ackedRange queue)
      (numbers.ackedEnd queue)).isFinite = true

/-- A point is shaped exactly if its time is a date and its total is finite. -/
theorem returns_burnupPoint_iff (point : TimedIncrease) :
    Returns (burnupPoint python point) ↔
      Dated python point.time ∧ point.total.isFinite = true := by
  unfold burnupPoint
  rw [← returns_roundDouble_iff]
  constructor
  · intro returns
    obtain ⟨time, one, returns⟩ := (Returns.bind_iff _ _).mp returns
    obtain ⟨total, two, _⟩ := (Returns.bind_iff _ _).mp returns
    exact ⟨⟨time, one⟩, ⟨total, two⟩⟩
  · rintro ⟨⟨time, one⟩, ⟨total, two⟩⟩
    exact (Returns.bind_iff _ _).mpr ⟨time, one, (Returns.bind_iff _ _).mpr
      ⟨total, two, Returns.pure _⟩⟩

/-- The points of a load are made exactly if its samples have dates and its total is in range. -/
theorem returns_burnupPoints_iff (baseline : ℚ) (points : List TimedValue) :
    Returns ((increasesFrom python start baseline (.finite 0) points).mapM (burnupPoint python)) ↔
      (∀ point ∈ lateSamples start points, Dated python point.time) ∧
        (sumOfRises python (.finite 0) baseline
          ((lateSamples start points).map TimedValue.value)).isFinite = true := by
  have times : (∀ point ∈ increasesFrom python start baseline (.finite 0) points,
      Dated python point.time) ↔ ∀ point ∈ lateSamples start points, Dated python point.time := by
    rw [← List.forall_mem_map (f := TimedIncrease.time), increasesFrom_times, List.forall_mem_map]
  rw [returns_mapM_iff, ← times, ← increasesFrom_finite_iff]
  simp only [returns_burnupPoint_iff, forall_and]
  exact and_congr_right fun _ => (and_iff_right rfl).symm

/-- The load of a queue is shaped exactly if its numbers are finite. -/
theorem returns_shapeLoad_iff (consumer : String) (queue : Browser.TopologyQueue) :
    Returns (shapeLoad python start finish numbers consumer queue) ↔
      QueueFinite python start finish numbers queue.name := by
  unfold shapeLoad ackedIncrease
  cases based : numbers.ackedStart queue.name with
  | none =>
      refine iff_of_true ?_ ⟨by simp [based], by simp [based]⟩
      exact (Returns.bind_iff _ _).mpr ⟨none, rfl, (Returns.bind_iff _ _).mpr
        ⟨[], rfl, Returns.pure _⟩⟩
  | some baseline =>
      have points := returns_burnupPoints_iff python start baseline
        (closed finish (numbers.ackedRange queue.name) (numbers.ackedEnd queue.name))
      dsimp only
      rw [lastIncrease_some]
      unfold counterIncrease
      rw [Option.map_some, Option.getD_some, withEnd_eq, Returns.bind_iff]
      constructor
      · rintro ⟨loaded, _, returns⟩
        obtain ⟨made, mapped, _⟩ := (Returns.bind_iff _ _).mp returns
        obtain ⟨dated, total⟩ := points.mp ⟨made, mapped⟩
        refine ⟨?_, ?_⟩
        · rintro _ same point member
          exact dated point member
        · rintro _ same
          rw [based] at same
          cases same
          exact total
      · rintro ⟨dated, total⟩
        have ranged := total baseline based
        obtain ⟨loaded, one⟩ :=
          (Returns.map_iff (roundDouble _) some).mpr ((returns_roundDouble_iff _).mpr ranged)
        obtain ⟨made, two⟩ := points.mpr ⟨dated baseline based, ranged⟩
        exact ⟨loaded, one, (Returns.bind_iff _ _).mpr ⟨made, two, Returns.pure _⟩⟩

/-- The numbers of a run are in range, and its times have dates. -/
structure RunFinite (pipeline : RunPipeline) : Prop where
  entities : ∀ entity ∈ pipeline.entityTypes, EntityFinite python start finish numbers entity
  queues : ∀ consumer ∈ pipeline.consumers, ∀ queue ∈ consumer.queues,
    QueueFinite python start finish numbers queue.name
  started : Dated python start
  finished : Dated python finish

/-- The consumed queues are the queues of the consumers. -/
theorem forall_consumedQueues_iff (pipeline : RunPipeline)
    (holds : String × Browser.TopologyQueue → Prop) :
    (∀ consumed ∈ consumedQueues pipeline, holds consumed) ↔
      ∀ consumer ∈ pipeline.consumers, ∀ queue ∈ consumer.queues, holds (consumer.name, queue) := by
  unfold consumedQueues
  simp only [List.mem_flatMap, List.mem_map]
  constructor
  · intro all consumer member queue inside
    exact all _ ⟨consumer, member, queue, inside, rfl⟩
  · rintro all _ ⟨consumer, member, queue, inside, rfl⟩
    exact all consumer member queue inside

/-- A run is shaped exactly if all its numbers are finite. -/
theorem returns_shapeRun_iff (pipeline : RunPipeline) :
    Returns (shapeRun python start finish numbers pipeline) ↔
      RunFinite python start finish numbers pipeline := by
  have entities : Returns (pipeline.entityTypes.mapM (shapeEntity python start finish numbers)) ↔
      ∀ entity ∈ pipeline.entityTypes, EntityFinite python start finish numbers entity := by
    rw [returns_mapM_iff]
    exact forall₂_congr fun entity _ => returns_shapeEntity_iff python start finish numbers entity
  have queues : Returns ((consumedQueues pipeline).mapM fun consumed =>
      shapeLoad python start finish numbers consumed.1 consumed.2) ↔
        ∀ consumer ∈ pipeline.consumers, ∀ queue ∈ consumer.queues,
          QueueFinite python start finish numbers queue.name := by
    rw [returns_mapM_iff, forall_consumedQueues_iff]
    exact forall₂_congr fun consumer _ => forall₂_congr fun queue _ =>
      returns_shapeLoad_iff python start finish numbers consumer.name queue
  unfold shapeRun
  constructor
  · intro returns
    obtain ⟨shaped, one, returns⟩ := (Returns.bind_iff _ _).mp returns
    obtain ⟨loads, two, returns⟩ := (Returns.bind_iff _ _).mp returns
    obtain ⟨first, three, returns⟩ := (Returns.bind_iff _ _).mp returns
    obtain ⟨last, four, _⟩ := (Returns.bind_iff _ _).mp returns
    exact ⟨entities.mp ⟨shaped, one⟩, queues.mp ⟨loads, two⟩, ⟨first, three⟩, ⟨last, four⟩⟩
  · rintro ⟨each, consumed, ⟨first, three⟩, ⟨last, four⟩⟩
    obtain ⟨shaped, one⟩ := entities.mpr each
    obtain ⟨loads, two⟩ := queues.mpr consumed
    refine (Returns.bind_iff _ _).mpr ⟨shaped, one, (Returns.bind_iff _ _).mpr ⟨loads, two, ?_⟩⟩
    exact (Returns.bind_iff _ _).mpr ⟨first, three, (Returns.bind_iff _ _).mpr
      ⟨last, four, Returns.pure _⟩⟩

/-- The results of a run have the shapes that the route reads, and their numbers are in range. -/
structure RunShaped (pipeline : RunPipeline) (results : List (String × List Json)) : Prop where
  read : RunRead python results
  finite : RunFinite python start finish (toldNumbers python results) pipeline

/-- The progress is shaped exactly if its results are read and its numbers are finite. -/
theorem returns_shapeProgress_iff (pipeline : RunPipeline) (results : List (String × List Json)) :
    Returns (shapeProgress python pipeline start finish results) ↔
      RunShaped python start finish pipeline results := by
  unfold shapeProgress
  rw [Returns.bind_iff]
  constructor
  · rintro ⟨readings, done, returns⟩
    rw [readRun_numbers python results readings done] at returns
    exact ⟨(returns_readRun_iff python results).mp ⟨readings, done⟩,
      (returns_shapeRun_iff python start finish _ pipeline).mp returns⟩
  · rintro ⟨read, finite⟩
    obtain ⟨readings, done⟩ := (returns_readRun_iff python results).mpr read
    refine ⟨readings, done, ?_⟩
    rw [readRun_numbers python results readings done]
    exact (returns_shapeRun_iff python start finish _ pipeline).mpr finite

end Shaping

end OperationsConsole.History
