/-
This file studies counters that only grow or start again from zero, and what samples tell of them.
The gain between two samples never exceeds the true growth, because a hidden reset loses growth.
-/

import Mathlib.Algebra.BigOperators.Group.List.Basic
import Mathlib.Algebra.Order.BigOperators.Group.List
import Mathlib.Algebra.Order.Group.Abs

namespace Library

variable {τ α : Type*}

/-- A counter grows by an amount, or it starts again from zero. -/
inductive Change (α : Type*) where
  | grow (amount : α)
  | reset

namespace Change

variable [AddCommGroup α]

def apply (value : α) : Change α → α
  | grow amount => value + amount
  | reset => 0

def growth : Change α → α
  | grow amount => amount
  | reset => 0

/-- Without a reset the value grows by the sum of the growth. -/
theorem foldl_apply_of_no_reset (changes : List (Change α)) (value : α)
    (unbroken : reset ∉ changes) :
    changes.foldl apply value = value + (changes.map growth).sum := by
  induction changes generalizing value with
  | nil => simp
  | cons change rest ih =>
      have later : reset ∉ rest := fun member => unbroken (List.mem_cons_of_mem change member)
      cases change with
      | grow amount =>
          rw [List.foldl_cons, ih _ later, List.map_cons, List.sum_cons, apply, growth, add_assoc]
      | reset => exact absurd List.mem_cons_self unbroken

variable [LinearOrder α] [IsOrderedAddMonoid α]

/-- A counter that starts nonnegative stays nonnegative. -/
theorem foldl_apply_nonneg (changes : List (Change α)) (value : α) (counted : 0 ≤ value)
    (grows : ∀ change ∈ changes, 0 ≤ change.growth) : 0 ≤ changes.foldl apply value := by
  induction changes generalizing value with
  | nil => exact counted
  | cons change rest ih =>
      rw [List.foldl_cons]
      have later : ∀ other ∈ rest, 0 ≤ other.growth := fun other member =>
        grows other (List.mem_cons_of_mem change member)
      cases change with
      | grow amount => exact ih _ (add_nonneg counted (grows _ List.mem_cons_self)) later
      | reset => exact ih _ le_rfl later

theorem sum_growth_nonneg (changes : List (Change α))
    (grows : ∀ change ∈ changes, 0 ≤ change.growth) : 0 ≤ (changes.map growth).sum := by
  apply List.sum_nonneg
  intro amount member
  obtain ⟨change, inside, rfl⟩ := List.mem_map.mp member
  exact grows change inside

/-- A reset forgets the value before it, so the value is at most the starting one plus the
growth. -/
theorem foldl_apply_le (changes : List (Change α)) (value : α) (counted : 0 ≤ value)
    (grows : ∀ change ∈ changes, 0 ≤ change.growth) :
    changes.foldl apply value ≤ value + (changes.map growth).sum := by
  induction changes generalizing value with
  | nil => simp
  | cons change rest ih =>
      have later : ∀ other ∈ rest, 0 ≤ other.growth := fun other member =>
        grows other (List.mem_cons_of_mem change member)
      rw [List.foldl_cons, List.map_cons, List.sum_cons, ← add_assoc]
      cases change with
      | grow amount => exact ih _ (add_nonneg counted (grows _ List.mem_cons_self)) later
      | reset =>
          calc rest.foldl apply 0 ≤ 0 + (rest.map growth).sum := ih 0 le_rfl later
            _ ≤ value + growth reset + (rest.map growth).sum := by
              apply add_le_add_left
              rw [growth, add_zero]
              exact counted

/-- After a reset the value is at most the growth. -/
theorem foldl_apply_le_of_reset (changes : List (Change α)) (value : α)
    (grows : ∀ change ∈ changes, 0 ≤ change.growth) (broken : reset ∈ changes) :
    changes.foldl apply value ≤ (changes.map growth).sum := by
  obtain ⟨before, after, rfl⟩ := List.append_of_mem broken
  have first : 0 ≤ (before.map growth).sum := sum_growth_nonneg before fun change member =>
    grows change (List.mem_append_left _ member)
  have later : ∀ change ∈ after, 0 ≤ change.growth := fun change member =>
    grows change (List.mem_append_right _ (List.mem_cons_of_mem reset member))
  rw [List.foldl_append, List.foldl_cons, List.map_append, List.sum_append, List.map_cons,
    List.sum_cons]
  calc after.foldl apply (apply (before.foldl apply value) reset)
      ≤ 0 + (after.map growth).sum := foldl_apply_le after 0 le_rfl later
    _ ≤ (before.map growth).sum + (growth reset + (after.map growth).sum) := by
      rw [growth, zero_add]
      exact le_add_of_nonneg_left first

end Change

section Gain

variable [AddCommGroup α] [LinearOrder α]

/-- A value below the one before it started again from zero, so it is new as a whole. -/
def gain (previous value : α) : α := if previous ≤ value then value - previous else value

variable [IsOrderedAddMonoid α]

theorem gain_nonneg (previous value : α) (counted : 0 ≤ value) : 0 ≤ gain previous value := by
  unfold gain
  split
  · rename_i grown
    exact sub_nonneg.mpr grown
  · exact counted

/-- The gain is at most the new value. -/
theorem gain_le (previous value : α) (counted : 0 ≤ previous) : gain previous value ≤ value := by
  unfold gain
  split
  · exact sub_le_self value counted
  · exact le_rfl

/-- The gain never exceeds the growth, whatever resets it hides. -/
theorem gain_le_growth (changes : List (Change α)) (previous : α) (counted : 0 ≤ previous)
    (grows : ∀ change ∈ changes, 0 ≤ change.growth) :
    gain previous (changes.foldl Change.apply previous) ≤ (changes.map Change.growth).sum := by
  by_cases broken : Change.reset ∈ changes
  · exact (gain_le previous _ counted).trans
      (Change.foldl_apply_le_of_reset changes previous grows broken)
  · rw [Change.foldl_apply_of_no_reset changes previous broken, gain,
      if_pos (le_add_of_nonneg_right (Change.sum_growth_nonneg changes grows)),
      add_sub_cancel_left]

/-- Without a reset the gain is the difference of the values. -/
theorem gain_of_no_reset (changes : List (Change α)) (previous : α)
    (grows : ∀ change ∈ changes, 0 ≤ change.growth) (unbroken : Change.reset ∉ changes) :
    gain previous (changes.foldl Change.apply previous) =
      changes.foldl Change.apply previous - previous := by
  rw [Change.foldl_apply_of_no_reset changes previous unbroken, gain,
    if_pos (le_add_of_nonneg_right (Change.sum_growth_nonneg changes grows))]

end Gain

/-- A counter has its baseline at the start, and its changes follow in order of time. -/
structure Counter (τ α : Type*) [LinearOrder τ] [AddCommGroup α] [LinearOrder α] where
  start : τ
  baseline : α
  changes : List (τ × Change α)
  counted : 0 ≤ baseline
  grows : ∀ change ∈ changes, 0 ≤ change.2.growth
  ordered : changes.Pairwise fun earlier later => earlier.1 ≤ later.1
  begun : ∀ change ∈ changes, start < change.1

namespace Counter

variable [LinearOrder τ] [AddCommGroup α] [LinearOrder α] (counter : Counter τ α)

/-- These changes happened until a time. -/
def happened (time : τ) : List (Change α) :=
  (counter.changes.filter fun change => change.1 ≤ time).map Prod.snd

def valueAt (time : τ) : α := (counter.happened time).foldl Change.apply counter.baseline

/-- This is the true number of increments since the start. -/
def grownAt (time : τ) : α := ((counter.happened time).map Change.growth).sum

theorem happened_start : counter.happened counter.start = [] := by
  have none : counter.changes.filter (fun change => change.1 ≤ counter.start) = [] := by
    rw [List.filter_eq_nil_iff]
    intro change member early
    exact absurd (counter.begun change member) (not_lt.mpr (of_decide_eq_true early))
  rw [happened, none, List.map_nil]

theorem valueAt_start : counter.valueAt counter.start = counter.baseline := by
  rw [valueAt, happened_start, List.foldl_nil]

theorem grownAt_start : counter.grownAt counter.start = 0 := by
  rw [grownAt, happened_start, List.map_nil, List.sum_nil]

theorem happened_grows (time : τ) : ∀ change ∈ counter.happened time, 0 ≤ change.growth := by
  intro change member
  obtain ⟨timed, inside, rfl⟩ := List.mem_map.mp member
  exact counter.grows timed (List.mem_of_mem_filter inside)

/-- The changes until a later time extend those until an earlier time. -/
theorem happened_prefix (earlier later : τ) (ordered : earlier ≤ later) :
    counter.happened earlier <+: counter.happened later := by
  have sorted := counter.ordered
  unfold happened
  generalize counter.changes = changes at sorted
  apply List.IsPrefix.map
  induction changes with
  | nil => exact List.prefix_rfl
  | cons change rest ih =>
      rw [List.pairwise_cons] at sorted
      by_cases early : change.1 ≤ earlier
      · rw [List.filter_cons_of_pos (by simp [early]),
          List.filter_cons_of_pos (by simp [early.trans ordered]), List.prefix_cons_inj]
        exact ih sorted.2
      · have none : rest.filter (fun other => other.1 ≤ earlier) = [] := by
          rw [List.filter_eq_nil_iff]
          intro other member before
          exact early ((sorted.1 other member).trans (of_decide_eq_true before))
        rw [List.filter_cons_of_neg (by simp [early]), none]
        exact List.nil_prefix

variable [IsOrderedAddMonoid α]

theorem valueAt_nonneg (time : τ) : 0 ≤ counter.valueAt time :=
  Change.foldl_apply_nonneg _ _ counter.counted (counter.happened_grows time)

/-- Between two times the gain never exceeds the true growth. -/
theorem gain_le_grown (earlier later : τ) (ordered : earlier ≤ later) :
    gain (counter.valueAt earlier) (counter.valueAt later) ≤
      counter.grownAt later - counter.grownAt earlier := by
  obtain ⟨between, whole⟩ := counter.happened_prefix earlier later ordered
  have grows : ∀ change ∈ between, 0 ≤ change.growth := fun change member =>
    counter.happened_grows later change (whole ▸ List.mem_append_right _ member)
  have value : counter.valueAt later = between.foldl Change.apply (counter.valueAt earlier) := by
    rw [valueAt, ← whole, List.foldl_append, valueAt]
  have grown : counter.grownAt later = counter.grownAt earlier +
      (between.map Change.growth).sum := by
    rw [grownAt, ← whole, List.map_append, List.sum_append, grownAt]
  rw [value, grown, add_sub_cancel_left]
  exact gain_le_growth between _ (counter.valueAt_nonneg earlier) grows

/-- Between two times without a reset the gain is the difference of the values. -/
theorem gain_of_unbroken (earlier later : τ) (ordered : earlier ≤ later)
    (unbroken : Change.reset ∉ counter.happened later) :
    gain (counter.valueAt earlier) (counter.valueAt later) =
      counter.valueAt later - counter.valueAt earlier := by
  obtain ⟨between, whole⟩ := counter.happened_prefix earlier later ordered
  have grows : ∀ change ∈ between, 0 ≤ change.growth := fun change member =>
    counter.happened_grows later change (whole ▸ List.mem_append_right _ member)
  have value : counter.valueAt later = between.foldl Change.apply (counter.valueAt earlier) := by
    rw [valueAt, ← whole, List.foldl_append, valueAt]
  rw [value]
  exact gain_of_no_reset between _ grows fun member =>
    unbroken (whole ▸ List.mem_append_right _ member)

end Counter

end Library
