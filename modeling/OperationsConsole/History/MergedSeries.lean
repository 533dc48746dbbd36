/-
This file decides which answers can be read and which series can be merged.
The merged dictionary gathers, for each label, the samples that its series tell.
-/

import OperationsConsole.History.VictoriaAnswers
import OperationsConsole.Library.Grouping

namespace OperationsConsole.History

open Library

/-- A body that reports success has a dictionary of data, if any, and its result can be iterated. -/
structure Rowed (body : Json) : Prop where
  data : (body.field "data" (.dict [])).isDict = true
  result : Returns ((body.field "data" (.dict [])).field "result" (.list [])).iterate

/-- An answer with a body that is nested too deeply, or one that reports success without rows, lets
an exception escape. -/
structure Fetchable (answer : Answer) : Prop where
  shallow : answer.body ≠ .tooDeep
  rowed : ∀ body, answer.body = .read body → body.isDict = true →
    (body.field "status" .null).isTextOf "success" = true → Rowed body

/-- The rows of a body are read exactly if its data hold them. -/
theorem returns_rowsOf_iff (body : Json) (fields : body.isDict = true) :
    Returns (rowsOf body) ↔ Rowed body := by
  unfold rowsOf
  constructor
  · rintro ⟨rows, done⟩
    obtain ⟨data, one, done⟩ := (bind_eq_ok_iff _ _ _).mp done
    obtain ⟨result, two, done⟩ := (bind_eq_ok_iff _ _ _).mp done
    obtain ⟨_, rfl⟩ := (Json.get_eq_ok_iff _ _ _ _).mp one
    obtain ⟨held, rfl⟩ := (Json.get_eq_ok_iff _ _ _ _).mp two
    exact ⟨held, rows, done⟩
  · rintro ⟨data, rows, result⟩
    refine ⟨rows, (bind_eq_ok_iff _ _ _).mpr ⟨_, (Json.get_eq_ok_iff _ _ _ _).mpr ⟨fields, rfl⟩,
      (bind_eq_ok_iff _ _ _).mpr ⟨_, (Json.get_eq_ok_iff _ _ _ _).mpr ⟨data, rfl⟩, result⟩⟩⟩

/-- A read of an answer raises nothing but that the history is unavailable. -/
def Quiet {α : Type} : Except Failure α → Prop
  | .ok _ => True
  | .error (.historyUnavailable _) => True
  | .error (.raised _) => False

/-- A request fails in its transport or with a `ValueError`, or its answer is no success, or it can be
read. -/
structure WellFetched (answer : Except RequestFailure Answer) : Prop where
  handled : ∀ exception, answer = .error (.raised exception) → isValueError exception = true
  fetchable : ∀ found, answer = .ok found → 200 ≤ found.status → found.status < 300 →
    Fetchable found

/-- An answer is fetched well if it has no success or can be fetched. -/
theorem wellFetched_ok_iff (found : Answer) :
    WellFetched (.ok found) ↔ (200 ≤ found.status → found.status < 300 → Fetchable found) := by
  constructor
  · intro well
    exact well.fetchable found rfl
  · intro fetchable
    refine ⟨?_, ?_⟩
    · intro exception same
      cases same
    · rintro _ ⟨⟩
      exact fetchable

/-- A failed request stays quiet exactly if its exception is handled. -/
theorem quiet_fetch_error_iff (failure : RequestFailure) :
    Quiet (fetch (.error failure)) ↔ WellFetched (.error failure) := by
  have silent (other : RequestFailure) :
      ∀ found, (Except.error other : Except RequestFailure Answer) = .ok found →
        200 ≤ found.status → found.status < 300 → Fetchable found := by
    intro found same
    cases same
  cases failure with
  | httpError name =>
      refine iff_of_true trivial ⟨?_, silent _⟩
      intro exception same
      cases same
  | raised exception =>
      unfold fetch
      dsimp only
      split
      · rename_i caught
        refine iff_of_true trivial ⟨?_, silent _⟩
        rintro _ ⟨⟩
        exact caught
      · rename_i escaped
        exact iff_of_false id fun well => escaped (well.handled exception rfl)

/-- Every answer with another status, without JSON or without success is quiet. -/
theorem quiet_fetch_iff (answer : Except RequestFailure Answer) :
    Quiet (fetch answer) ↔ WellFetched answer := by
  cases answer with
  | error failure => exact quiet_fetch_error_iff failure
  | ok found =>
      rw [wellFetched_ok_iff]
      unfold fetch
      dsimp only
      split
      · rename_i failed
        refine iff_of_true trivial ?_
        intro low high
        exact absurd ⟨low, high⟩ failed
      · rename_i success
        obtain ⟨low, high⟩ := not_not.mp success
        rw [forall_prop_of_true low, forall_prop_of_true high]
        obtain ⟨status, body⟩ := found
        cases body with
        | malformed name =>
            refine iff_of_true trivial ⟨by simp, ?_⟩
            intro body same
            cases same
        | tooDeep => exact iff_of_false id fun fetchable => fetchable.shallow rfl
        | read body =>
            dsimp only
            split
            · rename_i success
              obtain ⟨fields, told⟩ := Bool.and_eq_true_iff.mp success
              have rows := returns_rowsOf_iff body fields
              have exact : Fetchable ⟨status, .read body⟩ ↔ Rowed body := by
                constructor
                · intro fetchable
                  exact fetchable.rowed body rfl fields told
                · intro rowed
                  refine ⟨by simp, ?_⟩
                  rintro _ ⟨⟩ _ _
                  exact rowed
              rw [exact, ← rows]
              cases rowsOf body with
              | ok rows => exact iff_of_true trivial (Returns.ok rows)
              | error exception => exact iff_of_false id (Returns.error exception)
            · rename_i fails
              refine iff_of_true trivial ⟨by simp, ?_⟩
              rintro _ ⟨⟩ fields told
              exact absurd (Bool.and_eq_true_iff.mpr ⟨fields, told⟩) fails

section Series

variable (python : Python) (label : String)

def metricOf (series : Json) : Json := series.field "metric" (.dict [])

def labelOf (series : Json) : Json := (metricOf series).field label .null

def valuesOf (series : Json) : Json := series.field "values" (.list [])

/-- A value is a number, or the error of its conversion is caught. -/
def Counted (raw : Json) : Prop := Returns (python.number raw)

/-- A sample is a pair of a time and a value that are numbers. -/
structure Sampled (item : Json) : Prop where
  pair : ∃ ts raw, item.unpack = .ok (ts, raw) ∧ Returns (python.toFloat ts) ∧ Counted python raw

/-- A series that can be read has a dictionary of labels. -/
structure Keyed (series : Json) : Prop where
  fields : series.isDict = true
  metric : (metricOf series).isDict = true

/-- The values of a series are samples. -/
def Valued (series : Json) : Prop :=
  ∃ items, (valuesOf series).iterate = .ok items ∧ ∀ item ∈ items, Sampled python item

/-- A series with the label has a label value that is no list and no dictionary. -/
structure Mergeable (series : Json) : Prop where
  keyed : Keyed series
  hashed : Returns (labelOf label series).hash
  valued : labelOf label series ≠ .null → Valued python series

/-- A timestamp is read exactly if it is a number. -/
theorem returns_instant_iff (place : ℕ × ℕ) (ts : Json) :
    Returns (python.instant place ts) ↔ Returns (python.toFloat ts) := by
  unfold Python.instant
  exact Returns.bind_of_total _ _ fun time => Returns.pure _

/-- A sample is read exactly if its two parts are. -/
theorem returns_sample_iff (field : String) (place : ℕ × ℕ) (item : Json) :
    Returns (sample python field place item) ↔ Sampled python item := by
  unfold sample
  constructor
  · intro returns
    obtain ⟨⟨ts, raw⟩, unpacked, returns⟩ := (Returns.bind_iff _ _).mp returns
    obtain ⟨value, numbered, returns⟩ := (Returns.bind_iff _ _).mp returns
    obtain ⟨instant, timed, _⟩ := (Returns.bind_iff _ _).mp returns
    exact ⟨ts, raw, unpacked, (returns_instant_iff python place ts).mp ⟨instant, timed⟩,
      ⟨value, numbered⟩⟩
  · rintro ⟨ts, raw, unpacked, timed, ⟨value, numbered⟩⟩
    obtain ⟨instant, read⟩ := (returns_instant_iff python place ts).mpr timed
    exact ⟨⟨field, instant, value⟩, (bind_eq_ok_iff _ _ _).mpr ⟨_, unpacked,
      (bind_eq_ok_iff _ _ _).mpr ⟨value, numbered, (bind_eq_ok_iff _ _ _).mpr
        ⟨instant, read, rfl⟩⟩⟩⟩

/-- The key of a series is the value of its label. -/
theorem keyOf_eq_ok_iff (series key : Json) :
    keyOf label series = .ok key ↔ Keyed series ∧ labelOf label series = key := by
  unfold keyOf labelOf metricOf
  rw [bind_eq_ok_iff]
  constructor
  · rintro ⟨metric, one, two⟩
    obtain ⟨fields, rfl⟩ := (Json.get_eq_ok_iff _ _ _ _).mp one
    obtain ⟨held, rfl⟩ := (Json.get_eq_ok_iff _ _ _ _).mp two
    exact ⟨⟨fields, held⟩, rfl⟩
  · rintro ⟨⟨fields, held⟩, rfl⟩
    exact ⟨_, (Json.get_eq_ok_iff _ _ _ _).mpr ⟨fields, rfl⟩,
      (Json.get_eq_ok_iff _ _ _ _).mpr ⟨held, rfl⟩⟩

/-- A series without the label is skipped, and the others are handled under their label. -/
theorem skipUnlabelled_eq_ok_iff {σ : Type} (handle : Json → Except Raised σ) (skipped next : σ)
    (series : Json) :
    (do
      match ← keyOf label series with
      | .null => return skipped
      | key => handle key) = .ok next ↔
      Keyed series ∧ (labelOf label series = .null ∧ next = skipped ∨
        labelOf label series ≠ .null ∧ handle (labelOf label series) = .ok next) := by
  rw [bind_eq_ok_iff]
  simp only [keyOf_eq_ok_iff]
  constructor
  · rintro ⟨key, ⟨keyed, rfl⟩, done⟩
    refine ⟨keyed, ?_⟩
    split at done
    · rename_i unlabelled
      exact .inl ⟨unlabelled, (Except.ok.inj done).symm⟩
    · rename_i labelled
      exact .inr ⟨labelled, done⟩
  · rintro ⟨keyed, ⟨unlabelled, rfl⟩ | ⟨labelled, done⟩⟩
    · exact ⟨.null, ⟨keyed, unlabelled⟩, rfl⟩
    · refine ⟨_, ⟨keyed, rfl⟩, ?_⟩
      split
      · rename_i unlabelled
        exact absurd unlabelled labelled
      · exact done

theorem samplesOf_eq_ok_iff (index : ℕ) (entry : String × Json)
    (fields : entry.2.isDict = true) (samples : List Told) :
    samplesOf python index entry = .ok samples ↔
      ∃ items, (valuesOf entry.2).iterate = .ok items ∧
        (items.zipIdx.mapM fun item => sample python entry.1 (index, item.2) item.1) =
          .ok samples := by
  unfold samplesOf
  rw [bind_eq_ok_iff]
  constructor
  · rintro ⟨values, one, done⟩
    obtain ⟨_, rfl⟩ := (Json.get_eq_ok_iff _ _ _ _).mp one
    exact (bind_eq_ok_iff _ _ _).mp done
  · intro done
    exact ⟨_, (Json.get_eq_ok_iff _ _ _ _).mpr ⟨fields, rfl⟩, (bind_eq_ok_iff _ _ _).mpr done⟩

/-- What holds of every item holds of every numbered item. -/
theorem forall_zipIdx_iff {α : Type} (items : List α) (holds : α → Prop) :
    (∀ item ∈ items.zipIdx, holds item.1) ↔ ∀ item ∈ items, holds item := by
  constructor
  · intro all item member
    obtain ⟨index, found⟩ := List.mem_iff_getElem?.mp member
    exact all (item, index) (List.mk_mem_zipIdx_iff_getElem?.mpr found)
  · intro all item member
    exact all item.1 (List.fst_mem_of_mem_zipIdx member)

/-- The samples of a series are read exactly if each of them is. -/
theorem returns_samplesOf_iff (index : ℕ) (entry : String × Json)
    (fields : entry.2.isDict = true) :
    Returns (samplesOf python index entry) ↔ Valued python entry.2 := by
  have each (items : List Json) :
      Returns (items.zipIdx.mapM fun item => sample python entry.1 (index, item.2) item.1) ↔
        ∀ item ∈ items, Sampled python item := by
    rw [returns_mapM_iff]
    refine Iff.trans ?_ (forall_zipIdx_iff items (Sampled python))
    exact forall₂_congr fun item _ => returns_sample_iff python entry.1 (index, item.2) item.1
  constructor
  · rintro ⟨samples, done⟩
    obtain ⟨items, iterated, mapped⟩ :=
      (samplesOf_eq_ok_iff python index entry fields samples).mp done
    exact ⟨items, iterated, (each items).mp ⟨samples, mapped⟩⟩
  · rintro ⟨items, iterated, sampled⟩
    obtain ⟨samples, mapped⟩ := (each items).mpr sampled
    exact ⟨samples, (samplesOf_eq_ok_iff python index entry fields samples).mpr
      ⟨items, iterated, mapped⟩⟩

/-- The dictionary with the samples of one more series of a label. -/
def merged (earlier : Merged) (series : (String × Json) × ℕ) (hashed : Label)
    (samples : List Told) : Merged :=
  let held := (earlier.get? hashed).getD (labelOf label series.1.2, .empty)
  earlier.set hashed (held.1, samples.foldl addSample held.2)

/-- A series is skipped, or its samples are added under its label. -/
theorem mergeSeries_eq_ok_iff (earlier next : Merged) (series : (String × Json) × ℕ) :
    mergeSeries python label earlier series = .ok next ↔
      Keyed series.1.2 ∧ (labelOf label series.1.2 = .null ∧ next = earlier ∨
        labelOf label series.1.2 ≠ .null ∧ ∃ hashed samples,
          (labelOf label series.1.2).hash = .ok hashed ∧
            samplesOf python series.2 series.1 = .ok samples ∧
              next = merged label earlier series hashed samples) := by
  unfold mergeSeries merged
  refine (skipUnlabelled_eq_ok_iff label _ _ _ _).trans ?_
  refine and_congr_right fun _ => or_congr_right (and_congr_right fun _ => ?_)
  constructor
  · intro done
    obtain ⟨hashed, one, done⟩ := (bind_eq_ok_iff _ _ _).mp done
    obtain ⟨samples, two, done⟩ := (bind_eq_ok_iff _ _ _).mp done
    exact ⟨hashed, samples, one, two, (Except.ok.inj done).symm⟩
  · rintro ⟨hashed, samples, one, two, rfl⟩
    exact (bind_eq_ok_iff _ _ _).mpr ⟨hashed, one, (bind_eq_ok_iff _ _ _).mpr ⟨samples, two, rfl⟩⟩

/-- A series is merged exactly if its key and its samples are read. -/
theorem returns_mergeSeries_iff (earlier : Merged) (series : (String × Json) × ℕ) :
    Returns (mergeSeries python label earlier series) ↔ Mergeable python label series.1.2 := by
  constructor
  · rintro ⟨next, done⟩
    obtain ⟨keyed, skipped | added⟩ := (mergeSeries_eq_ok_iff python label _ _ _).mp done
    · refine ⟨keyed, ?_, fun labelled => absurd skipped.1 labelled⟩
      rw [skipped.1]
      exact ⟨.null, rfl⟩
    · obtain ⟨_, hashed, samples, one, two, _⟩ := added
      exact ⟨keyed, ⟨hashed, one⟩, fun _ =>
        (returns_samplesOf_iff python series.2 series.1 keyed.fields).mp ⟨samples, two⟩⟩
  · rintro ⟨keyed, ⟨hashed, one⟩, valued⟩
    by_cases labelled : labelOf label series.1.2 = .null
    · exact ⟨earlier, (mergeSeries_eq_ok_iff python label _ _ _).mpr
        ⟨keyed, .inl ⟨labelled, rfl⟩⟩⟩
    · obtain ⟨samples, two⟩ := (returns_samplesOf_iff python series.2 series.1 keyed.fields).mpr
        (valued labelled)
      exact ⟨_, (mergeSeries_eq_ok_iff python label _ _ _).mpr
        ⟨keyed, .inr ⟨labelled, hashed, samples, one, two, rfl⟩⟩⟩

/-- The series of all fields merge exactly if each of them does. -/
theorem returns_merge_iff (results : List (String × List Json)) :
    Returns (merge python label results) ↔
      ∀ entry ∈ allSeries results, Mergeable python label entry.2 := by
  unfold merge
  rw [returns_foldlM_iff _ _ (returns_mergeSeries_iff python label)]
  exact forall_zipIdx_iff (allSeries results) fun entry => Mergeable python label entry.2

/-- A series has a label value with a hash. -/
def Labelled (hashed : Label) (series : Json) : Prop :=
  labelOf label series ≠ .null ∧ (labelOf label series).hash = .ok hashed

/-- A series has a sample at a time. -/
def Holds (time : Double) (series : Json) : Prop :=
  ∃ items, (valuesOf series).iterate = .ok items ∧
    ∃ item ∈ items, ∃ ts raw, item.unpack = .ok (ts, raw) ∧ python.toFloat ts = .ok time

def hasLabel (hashed : Label) (series : Json) : Bool :=
  match labelOf label series with
  | .null => false
  | value => value.hash = .ok hashed

/-- A series has a label exactly if its key is that label. -/
theorem hasLabel_iff (hashed : Label) (series : Json) :
    hasLabel label hashed series = true ↔ Labelled label hashed series := by
  unfold hasLabel Labelled
  split
  · rename_i unlabelled
    exact iff_of_false Bool.false_ne_true fun both => both.1 unlabelled
  · rename_i value labelled
    rw [decide_eq_true_eq]
    exact (and_iff_right labelled).symm

/-- The samples of a series, if they can be read. -/
def toldBy (series : (String × Json) × ℕ) : List Told :=
  match samplesOf python series.2 series.1 with
  | .ok samples => samples
  | .error _ => []

/-- A series tells the samples that are read of it. -/
theorem toldBy_eq (series : (String × Json) × ℕ) (samples : List Told)
    (read : samplesOf python series.2 series.1 = .ok samples) :
    toldBy python series = samples := by
  unfold toldBy
  rw [read]

/-- The samples that the series of a label tell, in order. -/
def toldOf (hashed : Label) (series : List ((String × Json) × ℕ)) : List Told :=
  (series.filter fun one => hasLabel label hashed one.1.2).flatMap (toldBy python)

/-- The last series tells its samples after the series before it. -/
theorem toldOf_concat (hashed : Label) (series : List ((String × Json) × ℕ))
    (last : (String × Json) × ℕ) :
    toldOf python label hashed (series ++ [last]) = toldOf python label hashed series ++
      if hasLabel label hashed last.1.2 then toldBy python last else [] := by
  unfold toldOf
  rw [List.filter_append, List.flatMap_append]
  cases held : hasLabel label hashed last.1.2 <;> simp [held]

/-- The points of some samples have the fields that are told at each time. -/
def gatherPoints (told : List Told) : Points :=
  gather Told.instant (fun _ => .empty) (fun fields one => fields.set one.field one.value) told

/-- The samples of a later series join the points that are there. -/
theorem foldl_addSample (told samples : List Told) :
    samples.foldl addSample (gatherPoints told) = gatherPoints (told ++ samples) := by
  unfold gatherPoints gather
  rw [List.foldl_append]
  rfl

/-- The entries of a merged dictionary are those of the series that were merged. -/
structure Faithful (series : List ((String × Json) × ℕ)) (merged : Merged) : Prop where
  keys : ∀ hashed, (merged.get? hashed).isSome = true ↔
    ∃ one ∈ series, Labelled label hashed one.1.2
  named : ∀ hashed key points, merged.get? hashed = some (key, points) →
    ∃ one ∈ series, Labelled label hashed one.1.2 ∧ labelOf label one.1.2 = key
  told : ∀ hashed, ((merged.get? hashed).map Prod.snd).getD .empty =
    gatherPoints (toldOf python label hashed series)

theorem exists_concat {α : Type} (entries : List α) (entry : α) (holds : α → Prop) :
    (∃ other ∈ entries ++ [entry], holds other) ↔
      (∃ other ∈ entries, holds other) ∨ holds entry := by
  simp only [List.mem_append, List.mem_singleton, or_and_right, exists_or, exists_eq_left]

/-- A series without the label changes nothing. -/
theorem faithful_skip (series : List ((String × Json) × ℕ)) (earlier : Merged)
    (faithful : Faithful python label series earlier) (last : (String × Json) × ℕ)
    (unlabelled : labelOf label last.1.2 = .null) :
    Faithful python label (series ++ [last]) earlier := by
  have never (hashed : Label) : ¬Labelled label hashed last.1.2 := fun labelled =>
    labelled.1 unlabelled
  refine ⟨?_, ?_, ?_⟩
  · intro hashed
    rw [faithful.keys hashed, exists_concat, or_iff_left (never hashed)]
  · intro hashed key points found
    obtain ⟨other, member, labelled⟩ := faithful.named hashed key points found
    exact ⟨other, List.mem_append_left _ member, labelled⟩
  · intro hashed
    rw [toldOf_concat, if_neg (mt (hasLabel_iff label hashed last.1.2).mp (never hashed)),
      List.append_nil]
    exact faithful.told hashed

/-- A series with the label adds its label and its samples. -/
theorem faithful_add (series : List ((String × Json) × ℕ)) (earlier : Merged)
    (faithful : Faithful python label series earlier) (last : (String × Json) × ℕ)
    (labelled : labelOf label last.1.2 ≠ .null) (own : Label) (samples : List Told)
    (one : (labelOf label last.1.2).hash = .ok own)
    (two : samplesOf python last.2 last.1 = .ok samples) :
    Faithful python label (series ++ [last]) (merged label earlier last own samples) := by
  have only (hashed : Label) : Labelled label hashed last.1.2 ↔ hashed = own := by
    constructor
    · rintro ⟨_, same⟩
      exact Except.ok.inj (same.symm.trans one)
    · rintro rfl
      exact ⟨labelled, one⟩
  unfold merged
  dsimp only
  refine ⟨?_, ?_, ?_⟩
  · intro hashed
    rw [exists_concat, only, ← faithful.keys hashed, Dict.get?_set]
    split
    · rename_i same
      exact iff_of_true rfl (.inr same)
    · rename_i differs
      rw [or_iff_left differs]
  · intro hashed key points found
    rw [Dict.get?_set] at found
    split at found
    · rename_i same
      rw [Option.some.injEq, Prod.mk.injEq] at found
      cases stored : earlier.get? own with
      | none =>
          rw [stored] at found
          exact ⟨last, List.mem_append_right _ List.mem_cons_self, (only hashed).mpr same,
            found.1⟩
      | some held =>
          rw [stored] at found
          obtain ⟨other, member, labels, named⟩ := faithful.named own held.1 held.2 stored
          rw [same]
          exact ⟨other, List.mem_append_left _ member, labels, named.trans found.1⟩
    · obtain ⟨other, member, labels⟩ := faithful.named hashed key points found
      exact ⟨other, List.mem_append_left _ member, labels⟩
  · intro hashed
    have before := faithful.told hashed
    rw [Dict.get?_set, toldOf_concat]
    by_cases same : hashed = own
    · rw [if_pos same, if_pos ((hasLabel_iff label _ _).mpr ((only hashed).mpr same)),
        toldBy_eq python last samples two, ← foldl_addSample, ← before, same]
      cases earlier.get? own with
      | none => rfl
      | some held => rfl
    · rw [if_neg same, if_neg (mt (hasLabel_iff label _ _).mp (mt (only hashed).mp same)),
        List.append_nil]
      exact before

/-- The merged dictionary has the labels and the samples of its series. -/
theorem faithful_merge (results : List (String × List Json)) (final : Merged)
    (done : merge python label results = .ok final) :
    Faithful python label (allSeries results).zipIdx final := by
  refine foldlM_invariant (mergeSeries python label) (Faithful python label) .empty ?_ ?_ _ _ done
  · refine ⟨fun hashed => by simp, ?_, fun hashed => rfl⟩
    intro hashed key points found
    cases found
  · intro series last earlier next faithful step
    obtain ⟨_, ⟨unlabelled, rfl⟩ | ⟨labelled, own, samples, one, two, rfl⟩⟩ :=
      (mergeSeries_eq_ok_iff python label _ _ _).mp step
    · exact faithful_skip python label series _ faithful last unlabelled
    · exact faithful_add python label series earlier faithful last labelled own samples one two

section Times

/-- A point stands at each time that is told, and at no other. -/
theorem get?_gatherPoints_isSome_iff (told : List Told) (instant : Instant) :
    ((gatherPoints told).get? instant).isSome = true ↔ ∃ one ∈ told, one.instant = instant := by
  unfold gatherPoints
  rw [get?_gather, Option.isSome_map]
  have apart := groupOf_eq_nil_iff Told.instant told instant
  rw [← not_iff_not, Bool.not_eq_true]
  refine Iff.trans ?_ (apart.trans (by simp))
  cases groupOf Told.instant told instant <;> simp

/-- A sample is its instant, its value and its field. -/
theorem sample_eq_ok_iff (field : String) (place : ℕ × ℕ) (item : Json) (one : Told) :
    sample python field place item = .ok one ↔
      ∃ ts raw, item.unpack = .ok (ts, raw) ∧ python.number raw = .ok one.value ∧
        python.instant place ts = .ok one.instant ∧ one.field = field := by
  unfold sample
  constructor
  · intro made
    obtain ⟨⟨ts, raw⟩, unpacked, made⟩ := (bind_eq_ok_iff _ _ _).mp made
    obtain ⟨value, numbered, made⟩ := (bind_eq_ok_iff _ _ _).mp made
    obtain ⟨instant, timed, made⟩ := (bind_eq_ok_iff _ _ _).mp made
    rw [← Except.ok.inj made]
    exact ⟨ts, raw, unpacked, numbered, timed, rfl⟩
  · rintro ⟨ts, raw, unpacked, numbered, timed, rfl⟩
    exact (bind_eq_ok_iff _ _ _).mpr ⟨_, unpacked, (bind_eq_ok_iff _ _ _).mpr
      ⟨_, numbered, (bind_eq_ok_iff _ _ _).mpr ⟨_, timed, rfl⟩⟩⟩

/-- A series tells what its numbered samples tell. -/
theorem mem_toldBy_iff (series : (String × Json) × ℕ) (fields : series.1.2.isDict = true)
    (valued : Valued python series.1.2) (one : Told) :
    one ∈ toldBy python series ↔ ∃ items, (valuesOf series.1.2).iterate = .ok items ∧
      ∃ item ∈ items.zipIdx, sample python series.1.1 (series.2, item.2) item.1 = .ok one := by
  obtain ⟨samples, read⟩ := (returns_samplesOf_iff python series.2 series.1 fields).mpr valued
  obtain ⟨items, iterated, mapped⟩ :=
    (samplesOf_eq_ok_iff python series.2 series.1 fields samples).mp read
  rw [toldBy_eq python series samples read]
  constructor
  · intro inside
    exact ⟨items, iterated, mem_of_mapM _ _ _ mapped one inside⟩
  · rintro ⟨others, same, item, listed, made⟩
    rw [Except.ok.inj (same.symm.trans iterated)] at listed
    obtain ⟨other, inside, made'⟩ := mapM_mem _ _ _ mapped item listed
    rw [Except.ok.inj (made.symm.trans made')]
    exact inside

/-- The time of an instant is the number of its timestamp. -/
theorem time_of_instant (place : ℕ × ℕ) (ts : Json) (instant : Instant)
    (noted : python.instant place ts = .ok instant) :
    python.toFloat ts = .ok instant.time := by
  obtain ⟨time, timed, noted⟩ := (bind_eq_ok_iff _ _ _).mp noted
  rw [timed, ← Except.ok.inj noted]

/-- The times of the samples of a series are those that it holds. -/
theorem holds_iff_toldBy (series : (String × Json) × ℕ) (fields : series.1.2.isDict = true)
    (valued : Valued python series.1.2) (time : Double) :
    Holds python time series.1.2 ↔ ∃ one ∈ toldBy python series, one.instant.time = time := by
  simp only [mem_toldBy_iff python series fields valued]
  constructor
  · rintro ⟨items, iterated, item, listed, ts, raw, unpacked, timed⟩
    obtain ⟨others, same, sampled⟩ := valued
    rw [Except.ok.inj (iterated.symm.trans same)] at listed
    obtain ⟨index, found⟩ := List.mem_iff_getElem?.mp listed
    obtain ⟨one, made⟩ := (returns_sample_iff python series.1.1 (series.2, index) item).mpr
      (sampled item listed)
    refine ⟨one, ⟨others, same, (item, index), List.mk_mem_zipIdx_iff_getElem?.mpr found, made⟩, ?_⟩
    obtain ⟨_, _, apart, _, noted, _⟩ := (sample_eq_ok_iff python _ _ item one).mp made
    obtain ⟨rfl, rfl⟩ := Prod.mk.inj (Except.ok.inj (unpacked.symm.trans apart))
    exact Except.ok.inj ((time_of_instant python _ ts _ noted).symm.trans timed)
  · rintro ⟨one, ⟨items, iterated, item, listed, made⟩, rfl⟩
    obtain ⟨ts, raw, unpacked, _, noted, _⟩ := (sample_eq_ok_iff python _ _ item.1 one).mp made
    exact ⟨items, iterated, item.1, List.fst_mem_of_mem_zipIdx listed, ts, raw, unpacked,
      time_of_instant python _ ts _ noted⟩

variable {python label} in
/-- The points of a label stand at the times that its series hold. -/
theorem Faithful.times {results : List (String × List Json)} {final : Merged}
    (faithful : Faithful python label (allSeries results).zipIdx final)
    (mergeable : ∀ entry ∈ allSeries results, Mergeable python label entry.2)
    (hashed : Label) (key : Json) (points : Points) (found : final.get? hashed = some (key, points))
    (time : Double) :
    (∃ instant : Instant, instant.time = time ∧ (points.get? instant).isSome = true) ↔
      ∃ entry ∈ allSeries results, Labelled label hashed entry.2 ∧ Holds python time entry.2 := by
  have told := faithful.told hashed
  rw [found] at told
  change points = _ at told
  rw [told]
  simp only [get?_gatherPoints_isSome_iff]
  unfold toldOf
  constructor
  · rintro ⟨_, rfl, one, member, rfl⟩
    obtain ⟨series, listed, inside⟩ := List.mem_flatMap.mp member
    obtain ⟨numbered, held⟩ := List.mem_filter.mp listed
    have entry := List.fst_mem_of_mem_zipIdx numbered
    have labelled := (hasLabel_iff label hashed _).mp held
    have shape := mergeable series.1 entry
    exact ⟨series.1, entry, labelled, (holds_iff_toldBy python series shape.keyed.fields
      (shape.valued labelled.1) _).mpr ⟨one, inside, rfl⟩⟩
  · rintro ⟨entry, member, labelled, holds⟩
    obtain ⟨index, found⟩ := List.mem_iff_getElem?.mp member
    have shape := mergeable entry member
    obtain ⟨one, inside, same⟩ := (holds_iff_toldBy python (entry, index) shape.keyed.fields
      (shape.valued labelled.1) time).mp holds
    exact ⟨one.instant, same, one, List.mem_flatMap.mpr ⟨(entry, index), List.mem_filter.mpr
      ⟨List.mk_mem_zipIdx_iff_getElem?.mpr found, (hasLabel_iff label hashed _).mpr labelled⟩,
        inside⟩, rfl⟩

variable {python label} in
/-- The keys are those of the series. -/
theorem Faithful.keys_iff {results : List (String × List Json)} {final : Merged}
    (faithful : Faithful python label (allSeries results).zipIdx final) (hashed : Label) :
    (final.get? hashed).isSome = true ↔ ∃ entry ∈ allSeries results, Labelled label hashed entry.2 := by
  rw [faithful.keys]
  constructor
  · rintro ⟨series, member, labelled⟩
    exact ⟨series.1, List.fst_mem_of_mem_zipIdx member, labelled⟩
  · rintro ⟨entry, member, labelled⟩
    obtain ⟨index, found⟩ := List.mem_iff_getElem?.mp member
    exact ⟨(entry, index), List.mk_mem_zipIdx_iff_getElem?.mpr found, labelled⟩

end Times

end Series

end OperationsConsole.History
