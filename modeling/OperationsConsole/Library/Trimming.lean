/-
This file defines lists that are edited, sorted and then cut to a bound.
A stable sort follows any total preorder.
-/

import Mathlib.Data.List.Sort

namespace Library

variable {α : Type*}

/-- An edit drops some items and adds others at both ends. -/
structure Edit (α : Type*) where
  keep : α → Bool := fun _ => true
  front : List α := []
  back : List α := []

section Sorting

variable (rel : α → α → Prop)

/-- The items of a full list all come before a given one. -/
structure Crowded (bound : ℕ) (items : List α) (item : α) : Prop where
  full : items.length = bound
  before : ∀ other ∈ items, rel other item

/-- A cut drops an item only if the items before it fill the list. -/
theorem mem_take_or_crowded (bound : ℕ) (items : List α) (sorted : items.Pairwise rel) (item : α)
    (member : item ∈ items) :
    item ∈ items.take bound ∨ Crowded rel bound (items.take bound) item := by
  rw [← List.take_append_drop bound items, List.pairwise_append] at sorted
  rw [← List.take_append_drop bound items, List.mem_append] at member
  rcases member with inside | outside
  · exact .inl inside
  · refine .inr ⟨?_, fun other early => sorted.2.2 other early item outside⟩
    have beyond : items.drop bound ≠ [] := List.ne_nil_of_mem outside
    rw [Ne, List.drop_eq_nil_iff] at beyond
    rw [List.length_take]
    omega

variable [DecidableRel rel]

def Edit.apply (edit : Edit α) (items : List α) : List α :=
  (edit.front ++ (items.filter edit.keep ++ edit.back)).mergeSort fun first second =>
    rel first second

theorem Edit.mem_apply (edit : Edit α) (items : List α) (item : α) :
    item ∈ edit.apply rel items ↔
      item ∈ edit.front ∨ (item ∈ items ∧ edit.keep item = true) ∨ item ∈ edit.back := by
  rw [apply, List.mem_mergeSort, List.mem_append, List.mem_append, List.mem_filter]

/-- An edit that drops and adds nothing leaves a sorted list as it is. -/
theorem Edit.apply_nothing (items : List α) (sorted : items.Pairwise rel) :
    ({} : Edit α).apply rel items = items := by
  change (([] : List α) ++ (items.filter (fun _ => true) ++ [])).mergeSort _ = items
  rw [List.nil_append, List.append_nil, List.filter_true]
  exact List.mergeSort_of_pairwise (sorted.imp fun ordered => by simpa using ordered)

theorem orderedInsert_between (item : α) (before behind : List α)
    (smaller : ∀ other ∈ before, ¬ rel item other) (sorted : (item :: behind).Pairwise rel) :
    (before ++ behind).orderedInsert rel item = before ++ item :: behind := by
  induction before with
  | nil =>
      cases behind with
      | nil => rfl
      | cons other behind =>
          have first : rel item other := (List.pairwise_cons.mp sorted).1 other List.mem_cons_self
          rw [List.nil_append, List.orderedInsert_cons, if_pos first]
          rfl
  | cons other before ih =>
      have after : ¬ rel item other := smaller other List.mem_cons_self
      rw [List.cons_append, List.orderedInsert_cons, if_neg after,
        ih fun next member => smaller next (List.mem_cons_of_mem _ member)]
      rfl

variable [Std.Total rel] [IsTrans α rel]

/-- The stable sort inserts the items one by one, the last one first. -/
theorem mergeSort_eq_insertions (items : List α) :
    (items.mergeSort fun first second => rel first second) = items.insertionSort rel := by
  have sorted (items : List α) :
      (items.mergeSort fun first second => rel first second).Pairwise rel :=
    List.pairwise_mergeSort' rel items
  induction items with
  | nil => rw [List.mergeSort_nil, List.insertionSort_nil]
  | cons item rest ih =>
      have chain : ∀ first second third, decide (rel first second) = true →
          decide (rel second third) = true → decide (rel first third) = true := by
        simp only [decide_eq_true_eq]
        exact fun _ _ _ => trans_of rel
      have total : ∀ first second,
          (decide (rel first second) || decide (rel second first)) = true := by
        simpa using total_of rel
      obtain ⟨before, behind, whole, part, smaller⟩ := List.mergeSort_cons chain total item rest
      have own := sorted (item :: rest)
      rw [whole] at own ⊢
      rw [List.insertionSort_cons, ← ih, part]
      apply (orderedInsert_between rel item before behind _ (List.pairwise_append.mp own).2.1).symm
      intro other member
      simpa using smaller other member

theorem mergeSort_sublist {part whole : List α} (within : part.Sublist whole) :
    (part.mergeSort fun first second => rel first second).Sublist
      (whole.mergeSort fun first second => rel first second) := by
  rw [mergeSort_eq_insertions, mergeSort_eq_insertions]
  induction within with
  | slnil => exact List.Sublist.refl _
  | cons item _ ih => exact ih.trans (List.sublist_orderedInsert item _)
  | cons_cons item _ ih =>
      exact ih.orderedInsert_sublist item (List.pairwise_insertionSort rel _)

theorem Edit.apply_sorted (edit : Edit α) (items : List α) :
    (edit.apply rel items).Pairwise rel :=
  List.pairwise_mergeSort' rel _

theorem Edit.apply_sublist (edit : Edit α) {part whole : List α} (within : part.Sublist whole) :
    (edit.apply rel part).Sublist (edit.apply rel whole) := by
  apply mergeSort_sublist
  exact ((within.filter edit.keep).append (List.Sublist.refl _)).append_left _

/-- An item that an edit leaves in the whole list stays in a cut one, unless it is crowded out. -/
theorem Edit.mem_cut_or_crowded (edit : Edit α) (bound : ℕ) (part whole : List α) (item : α)
    (member : item ∈ edit.apply rel whole) :
    item ∈ (edit.apply rel part).take bound ∨
      Crowded rel bound ((edit.apply rel part).take bound) item ∨ (item ∈ whole ∧ item ∉ part) := by
  by_cases present : item ∈ edit.apply rel part
  · rcases mem_take_or_crowded rel bound _ (edit.apply_sorted rel part) item present with
      inside | crowded
    · exact .inl inside
    · exact .inr (.inl crowded)
  · rw [mem_apply] at member present
    simp only [not_or, not_and] at present
    rcases member with early | held | late
    · exact absurd early present.1
    · exact .inr (.inr ⟨held.1, fun inside => present.2.1 inside held.2⟩)
    · exact absurd late present.2.2

end Sorting

end Library
