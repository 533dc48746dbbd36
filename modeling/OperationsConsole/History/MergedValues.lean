/-
This file finds the values of a merged dictionary. A field has the value that its last sample at an
instant tells.
-/

import OperationsConsole.History.MergedSeries

namespace OperationsConsole.History

open Library

/-- A point reads the value of a field at an instant. -/
def valueAt (points : Points) (instant : Instant) (field : String) : Option (Option ℚ) :=
  ((points.get? instant).getD .empty).get? field

/-- The samples of a field at an instant, in the order in which they are told. -/
def samplesAt (told : List Told) (instant : Instant) (field : String) : List Told :=
  groupOf Told.field (groupOf Told.instant told instant) field

theorem mem_samplesAt_iff (told : List Told) (instant : Instant) (field : String) (one : Told) :
    one ∈ samplesAt told instant field ↔
      one ∈ told ∧ one.instant = instant ∧ one.field = field := by
  unfold samplesAt
  rw [mem_groupOf_iff, mem_groupOf_iff, and_assoc]

/-- The last sample decides. -/
theorem valueAt_gatherPoints (told : List Told) (instant : Instant) (field : String) :
    valueAt (gatherPoints told) instant field =
      (samplesAt told instant field).getLast?.map Told.value := by
  have last := get?_foldl_set Told.field Told.value (groupOf Told.instant told instant) .empty field
  unfold valueAt gatherPoints samplesAt
  rw [get?_gather]
  cases group : groupOf Told.instant told instant with
  | nil => rfl
  | cons first rest =>
      rw [group] at last
      rw [List.head?_cons, Option.map_some, Option.getD_some, last]
      exact Option.or_none

/-- The points of a label, as the shaping reads them. -/
def mergedPoints (merged : Merged) (hashed : Label) : Points :=
  ((merged.get? hashed).getD (.null, .empty)).2

theorem Faithful.points {python : Python} {label : String} {series : List ((String × Json) × ℕ)}
    {merged : Merged} (faithful : Faithful python label series merged) (hashed : Label) :
    mergedPoints merged hashed = gatherPoints (toldOf python label hashed series) := by
  rw [← faithful.told hashed]
  unfold mergedPoints
  cases merged.get? hashed with
  | none => rfl
  | some held => rfl

end OperationsConsole.History
