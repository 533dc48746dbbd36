/-
This file decides which results of a run can be read, and it says what they tell of a name.
The last series of a label with a number decides.
-/

import OperationsConsole.History.HealthShape
import OperationsConsole.History.RunProgressAnswers

namespace OperationsConsole.History

open Library

section Instants

variable (python : Python) (label : String)

/-- A series of an instant query has a value, and its label has a hash if the value is kept. -/
structure InstantRead (series : Json) : Prop where
  keyed : Keyed series
  instant : HasItem python series
  hashed : labelOf label series ≠ .null →
    ∀ value, instantValue python series = .ok (some value) → Returns (labelOf label series).hash

/-- A series is dropped, or its value is kept under its label. -/
theorem instantStep_eq_ok_iff (values next : Dict Label ℚ) (series : Json) :
    instantStep python label values series = .ok next ↔
      Keyed series ∧ ∃ value, instantValue python series = .ok value ∧
        ((labelOf label series = .null ∨ value = none) ∧ next = values ∨
          ∃ hashed number, labelOf label series ≠ .null ∧ value = some number ∧
            (labelOf label series).hash = .ok hashed ∧ next = values.set hashed number) := by
  unfold instantStep
  rw [bind_eq_ok_iff]
  simp only [keyOf_eq_ok_iff]
  constructor
  · rintro ⟨key, ⟨keyed, rfl⟩, done⟩
    obtain ⟨value, read, done⟩ := (bind_eq_ok_iff _ _ _).mp done
    refine ⟨keyed, value, read, ?_⟩
    split at done
    · rename_i unlabelled
      exact .inl ⟨.inl unlabelled, (Except.ok.inj done).symm⟩
    · exact .inl ⟨.inr rfl, (Except.ok.inj done).symm⟩
    · rename_i number labelled
      obtain ⟨hashed, same, done⟩ := (bind_eq_ok_iff _ _ _).mp done
      exact .inr ⟨hashed, number, labelled, rfl, same, (Except.ok.inj done).symm⟩
  · rintro ⟨keyed, value, read, dropped | kept⟩
    · obtain ⟨absent, rfl⟩ := dropped
      refine ⟨_, ⟨keyed, rfl⟩, (bind_eq_ok_iff _ _ _).mpr ⟨value, read, ?_⟩⟩
      split
      · rfl
      · rfl
      · rename_i number labelled
        rcases absent with unlabelled | none
        · exact absurd unlabelled labelled
        · cases none
    · obtain ⟨hashed, number, labelled, rfl, same, rfl⟩ := kept
      refine ⟨_, ⟨keyed, rfl⟩, (bind_eq_ok_iff _ _ _).mpr ⟨_, read, ?_⟩⟩
      split
      · rename_i unlabelled
        exact absurd unlabelled labelled
      · rename_i none _
        cases none
      · rename_i found _
        cases found
        exact (bind_eq_ok_iff _ _ _).mpr ⟨hashed, same, rfl⟩

/-- One series of an instant answer is read exactly if its label and its value are. -/
theorem returns_instantStep_iff (values : Dict Label ℚ) (series : Json) :
    Returns (instantStep python label values series) ↔ InstantRead python label series := by
  constructor
  · rintro ⟨next, done⟩
    obtain ⟨keyed, value, read, dropped | kept⟩ :=
      (instantStep_eq_ok_iff python label values next series).mp done
    · obtain ⟨absent, _⟩ := dropped
      refine ⟨keyed, ((instantValue_returns python series).mp ⟨value, read⟩).2, ?_⟩
      intro labelled number known
      rcases absent with unlabelled | rfl
      · exact absurd unlabelled labelled
      · rw [read] at known
        cases known
    · obtain ⟨hashed, number, labelled, _, same, _⟩ := kept
      exact ⟨keyed, ((instantValue_returns python series).mp ⟨value, read⟩).2,
        fun _ _ _ => ⟨hashed, same⟩⟩
  · rintro ⟨keyed, instant, hashed⟩
    obtain ⟨value, read⟩ := (instantValue_returns python series).mpr ⟨keyed.fields, instant⟩
    by_cases dropped : labelOf label series = .null ∨ value = none
    · exact ⟨values, (instantStep_eq_ok_iff python label values values series).mpr
        ⟨keyed, value, read, .inl ⟨dropped, rfl⟩⟩⟩
    · rw [not_or] at dropped
      obtain ⟨number, rfl⟩ := Option.ne_none_iff_exists'.mp dropped.2
      obtain ⟨own, same⟩ := hashed dropped.1 number read
      exact ⟨values.set own number, (instantStep_eq_ok_iff python label values _ series).mpr
        ⟨keyed, _, read, .inr ⟨own, number, dropped.1, rfl, same, rfl⟩⟩⟩

/-- An instant answer is read exactly if each of its series is. -/
theorem returns_instantValues_iff (result : List Json) :
    Returns (instantValues python label result) ↔
      ∀ series ∈ result, InstantRead python label series :=
  returns_foldlM_iff _ _ (returns_instantStep_iff python label) _ _

/-- The number of a series, if it has one. -/
def numberOf (series : Json) : Option ℚ :=
  match instantValue python series with
  | .ok value => value
  | .error _ => none

/-- The last series of a name with a number tells the number. -/
def instantSample (name : String) (result : List Json) : Option ℚ :=
  result.reverse.findSome? fun series =>
    if (labelOf label series).isTextOf name then numberOf python series else none

theorem isTextOf_iff (value : Json) (name : String) :
    value.isTextOf name = true ↔ value = .text (literal name) := by
  cases value <;> simp [Json.isTextOf]

/-- The value of a label is that of its last series with a number. -/
theorem get?_instantValues (name : String) (result : List Json) (values : Dict Label ℚ)
    (done : instantValues python label result = .ok values) :
    valueOf values name = instantSample python label name result := by
  refine foldlM_invariant (instantStep python label) (fun earlier (values : Dict Label ℚ) =>
    valueOf values name = instantSample python label name earlier) .empty rfl ?_ result values done
  intro earlier series state next holds step
  unfold instantSample at holds ⊢
  rw [List.reverse_append, List.reverse_singleton, List.singleton_append, List.findSome?_cons]
  obtain ⟨_, value, read, dropped | kept⟩ :=
    (instantStep_eq_ok_iff python label state next series).mp step
  · obtain ⟨absent, rfl⟩ := dropped
    have nothing : (if (labelOf label series).isTextOf name then numberOf python series
        else none) = none := by
      split
      · rename_i named
        rw [isTextOf_iff] at named
        rcases absent with unlabelled | rfl
        · rw [named] at unlabelled
          cases unlabelled
        · unfold numberOf
          rw [read]
      · rfl
    rw [nothing]
    exact holds
  · obtain ⟨hashed, number, _, rfl, same, rfl⟩ := kept
    unfold valueOf at holds ⊢
    rw [Dict.get?_set]
    by_cases named : labelOf label series = .text (literal name)
    · rw [named] at same
      rw [if_pos ((isTextOf_iff _ _).mpr named), if_pos (Except.ok.inj same)]
      unfold numberOf
      rw [read]
    · rw [if_neg (mt (isTextOf_iff _ _).mp named), if_neg ?_]
      · exact holds
      · rintro rfl
        exact named ((hash_eq_text_iff _ _).mp same)

/-- Some label has a number. -/
def HasNumber (result : List Json) : Prop :=
  ∃ series ∈ result, labelOf label series ≠ .null ∧ (numberOf python series).isSome = true

def hasNumber (result : List Json) : Bool :=
  result.any fun series => match labelOf label series with
    | .null => false
    | _ => (numberOf python series).isSome

/-- An answer has a number exactly if some series tells one. -/
theorem hasNumber_iff (result : List Json) :
    hasNumber python label result = true ↔ HasNumber python label result := by
  unfold hasNumber HasNumber
  rw [List.any_eq_true]
  refine exists_congr fun series => and_congr_right fun _ => ?_
  split
  · rename_i unlabelled
    exact iff_of_false Bool.false_ne_true fun both => both.1 unlabelled
  · rename_i labelled
    exact (and_iff_right labelled).symm

theorem numberOf_eq (series : Json) (value : Option ℚ)
    (read : instantValue python series = .ok value) : numberOf python series = value := by
  unfold numberOf
  rw [read]

/-- The dictionary is not empty exactly if some label has a number. -/
theorem instantValues_held_iff (result : List Json) (values : Dict Label ℚ)
    (done : instantValues python label result = .ok values) :
    (∃ hashed, (values.get? hashed).isSome = true) ↔ HasNumber python label result := by
  refine foldlM_invariant (instantStep python label) (fun earlier (values : Dict Label ℚ) =>
    (∃ hashed, (values.get? hashed).isSome = true) ↔ HasNumber python label earlier)
    .empty ?_ ?_ result values done
  · exact iff_of_false (by simp) (by simp [HasNumber])
  · intro earlier series state next holds step
    have grown : HasNumber python label (earlier ++ [series]) ↔ HasNumber python label earlier ∨
        labelOf label series ≠ .null ∧ (numberOf python series).isSome = true := by
      unfold HasNumber
      simp only [List.mem_append, List.mem_singleton, or_and_right, exists_or, exists_eq_left]
    rw [grown]
    obtain ⟨_, value, read, dropped | kept⟩ :=
      (instantStep_eq_ok_iff python label state next series).mp step
    · obtain ⟨absent, rfl⟩ := dropped
      rw [holds, or_iff_left]
      rintro ⟨labelled, present⟩
      rcases absent with unlabelled | rfl
      · exact labelled unlabelled
      · rw [numberOf_eq python series _ read] at present
        cases present
    · obtain ⟨hashed, number, labelled, rfl, _, rfl⟩ := kept
      refine iff_of_true ⟨hashed, ?_⟩ (.inr ⟨labelled, ?_⟩)
      · rw [Dict.get?_set, if_pos rfl]
        rfl
      · rw [numberOf_eq python series _ read]
        rfl

theorem isEmpty_items_iff {κ ν : Type} [DecidableEq κ] (dict : Dict κ ν) :
    (!dict.items.isEmpty) = true ↔ ∃ key, (dict.get? key).isSome = true := by
  simp only [← mem_keys_iff]
  cases dict.items with
  | nil => simp
  | cons item items => simp

end Instants

section Ranges

variable (python : Python) (label : String)

/-- A sample is a pair, its value is a number or no number at all, and the time of a number is a
number. -/
def TimedRead (item : Json) : Prop :=
  ∃ ts raw, item.unpack = .ok (ts, raw) ∧ Counted python raw ∧
    ∀ value, python.number raw = .ok (some value) → Returns (python.toFloat ts)

/-- A series of a range query has samples, unless it has no label. -/
structure RangeRead (series : Json) : Prop where
  keyed : Keyed series
  hashed : Returns (labelOf label series).hash
  timed : labelOf label series ≠ .null →
    ∃ items, (valuesOf series).iterate = .ok items ∧ ∀ item ∈ items, TimedRead python item

/-- A pair of a range is read exactly if its two numbers are. -/
theorem returns_timedValue_iff (item : Json × ℕ) :
    Returns (timedValue python item) ↔ TimedRead python item.1 := by
  unfold timedValue
  constructor
  · rintro ⟨point, done⟩
    obtain ⟨⟨ts, raw⟩, unpacked, done⟩ := (bind_eq_ok_iff _ _ _).mp done
    obtain ⟨value, numbered, done⟩ := (bind_eq_ok_iff _ _ _).mp done
    refine ⟨ts, raw, unpacked, ⟨value, numbered⟩, ?_⟩
    intro number known
    rw [Except.ok.inj (numbered.symm.trans known)] at done
    obtain ⟨instant, timed, _⟩ := (bind_eq_ok_iff _ _ _).mp done
    exact (returns_instant_iff python (0, item.2) ts).mp ⟨instant, timed⟩
  · rintro ⟨ts, raw, unpacked, ⟨value, numbered⟩, timed⟩
    refine (Returns.bind_iff _ _).mpr ⟨_, unpacked, (Returns.bind_iff _ _).mpr
      ⟨value, numbered, ?_⟩⟩
    cases value with
    | none => exact Returns.pure _
    | some number =>
        obtain ⟨instant, read⟩ :=
          (returns_instant_iff python (0, item.2) ts).mpr (timed number numbered)
        exact (Returns.bind_iff _ _).mpr ⟨instant, read, Returns.pure _⟩

/-- The pairs of a series are read exactly if each of them is. -/
theorem returns_timedValues_iff (series : Json) (fields : series.isDict = true) :
    Returns (timedValues python series) ↔
      ∃ items, (valuesOf series).iterate = .ok items ∧ ∀ item ∈ items, TimedRead python item := by
  have each (items : List Json) : Returns (items.zipIdx.mapM (timedValue python)) ↔
      ∀ item ∈ items, TimedRead python item := by
    rw [returns_mapM_iff]
    refine Iff.trans ?_ (forall_zipIdx_iff items (TimedRead python))
    exact forall₂_congr fun item _ => returns_timedValue_iff python item
  unfold timedValues
  constructor
  · intro returns
    obtain ⟨values, got, returns⟩ := (Returns.bind_iff _ _).mp returns
    obtain ⟨items, iterated, returns⟩ := (Returns.bind_iff _ _).mp returns
    obtain ⟨points, mapped, _⟩ := (Returns.bind_iff _ _).mp returns
    obtain ⟨_, rfl⟩ := (Json.get_eq_ok_iff _ _ _ _).mp got
    exact ⟨items, iterated, (each items).mp ⟨points, mapped⟩⟩
  · rintro ⟨items, iterated, timed⟩
    obtain ⟨points, mapped⟩ := (each items).mpr timed
    refine (Returns.bind_iff _ _).mpr ⟨_, (Json.get_eq_ok_iff _ _ _ _).mpr ⟨fields, rfl⟩, ?_⟩
    exact (Returns.bind_iff _ _).mpr ⟨items, iterated, (Returns.bind_iff _ _).mpr
      ⟨points, mapped, Returns.pure _⟩⟩

/-- A series is skipped, or its samples replace those of an earlier series of its label. -/
theorem rangeStep_eq_ok_iff (values next : Dict Label (List TimedValue)) (series : Json) :
    rangeStep python label values series = .ok next ↔
      Keyed series ∧ (labelOf label series = .null ∧ next = values ∨
        labelOf label series ≠ .null ∧ ∃ hashed points,
          (labelOf label series).hash = .ok hashed ∧ timedValues python series = .ok points ∧
            next = values.set hashed points) := by
  unfold rangeStep
  refine (skipUnlabelled_eq_ok_iff label _ _ _ _).trans ?_
  refine and_congr_right fun _ => or_congr_right (and_congr_right fun _ => ?_)
  constructor
  · intro done
    obtain ⟨points, read, done⟩ := (bind_eq_ok_iff _ _ _).mp done
    obtain ⟨hashed, same, done⟩ := (bind_eq_ok_iff _ _ _).mp done
    exact ⟨hashed, points, same, read, (Except.ok.inj done).symm⟩
  · rintro ⟨hashed, points, same, read, rfl⟩
    exact (bind_eq_ok_iff _ _ _).mpr
      ⟨points, read, (bind_eq_ok_iff _ _ _).mpr ⟨hashed, same, rfl⟩⟩

/-- One series of a range answer is read exactly if its label and its pairs are. -/
theorem returns_rangeStep_iff (values : Dict Label (List TimedValue)) (series : Json) :
    Returns (rangeStep python label values series) ↔ RangeRead python label series := by
  constructor
  · rintro ⟨next, done⟩
    obtain ⟨keyed, skipped | kept⟩ := (rangeStep_eq_ok_iff python label values next series).mp done
    · refine ⟨keyed, ?_, fun labelled => absurd skipped.1 labelled⟩
      rw [skipped.1]
      exact ⟨.null, rfl⟩
    · obtain ⟨_, hashed, points, same, read, _⟩ := kept
      exact ⟨keyed, ⟨hashed, same⟩, fun _ =>
        (returns_timedValues_iff python series keyed.fields).mp ⟨points, read⟩⟩
  · rintro ⟨keyed, ⟨hashed, same⟩, timed⟩
    by_cases labelled : labelOf label series = .null
    · exact ⟨values, (rangeStep_eq_ok_iff python label values values series).mpr
        ⟨keyed, .inl ⟨labelled, rfl⟩⟩⟩
    · obtain ⟨points, read⟩ := (returns_timedValues_iff python series keyed.fields).mpr
        (timed labelled)
      exact ⟨_, (rangeStep_eq_ok_iff python label values _ series).mpr
        ⟨keyed, .inr ⟨labelled, hashed, points, same, read, rfl⟩⟩⟩

/-- A range answer is read exactly if each of its series is. -/
theorem returns_rangeValues_iff (result : List Json) :
    Returns (rangeValues python label result) ↔ ∀ series ∈ result, RangeRead python label series :=
  returns_foldlM_iff _ _ (returns_rangeStep_iff python label) _ _

/-- The samples of a series in order, if they can be read. -/
def timedPoints (series : Json) : List TimedValue :=
  match timedValues python series with
  | .ok points => points
  | .error _ => []

/-- The last series of a name tells the samples. -/
def rangePoints (name : String) (result : List Json) : List TimedValue :=
  ((result.reverse.find? fun series => (labelOf label series).isTextOf name).map
    (timedPoints python)).getD []

/-- The points of a label are those of its last series. -/
theorem get?_rangeValues (name : String) (result : List Json)
    (values : Dict Label (List TimedValue))
    (done : rangeValues python label result = .ok values) :
    pointsOf values name = rangePoints python label name result := by
  refine foldlM_invariant (rangeStep python label)
    (fun earlier (values : Dict Label (List TimedValue)) =>
      pointsOf values name = rangePoints python label name earlier) .empty rfl ?_ result values done
  intro earlier series state next holds step
  unfold rangePoints at holds ⊢
  rw [List.reverse_append, List.reverse_singleton, List.singleton_append, List.find?_cons]
  obtain ⟨_, skipped | kept⟩ := (rangeStep_eq_ok_iff python label state next series).mp step
  · obtain ⟨unlabelled, rfl⟩ := skipped
    rw [unlabelled]
    exact holds
  · obtain ⟨labelled, hashed, points, same, read, rfl⟩ := kept
    unfold pointsOf at holds ⊢
    rw [Dict.get?_set]
    by_cases named : labelOf label series = .text (literal name)
    · rw [(isTextOf_iff _ _).mpr named]
      rw [named] at same
      rw [if_pos (Except.ok.inj same)]
      unfold timedPoints
      dsimp only
      rw [Option.map_some, read]
    · rw [Bool.eq_false_iff.mpr (mt (isTextOf_iff _ _).mp named), if_neg ?_]
      · exact holds
      · rintro rfl
        exact named ((hash_eq_text_iff _ _).mp same)

end Ranges

end OperationsConsole.History
