/-
This file groups items by their keys. A loop that gathers the items in a dictionary gives each key
the fold over its group, and the groups share out every total.
-/

import Mathlib.Algebra.BigOperators.Group.List.Basic
import Mathlib.Data.List.Induction
import OperationsConsole.Library.Dict

namespace Library

variable {α κ ν : Type*} [DecidableEq κ] (key : α → κ)

/-- The items with a key, in order. -/
def groupOf (items : List α) (wanted : κ) : List α := items.filter fun item => key item = wanted

theorem mem_groupOf_iff (items : List α) (wanted : κ) (item : α) :
    item ∈ groupOf key items wanted ↔ item ∈ items ∧ key item = wanted := by
  rw [groupOf, List.mem_filter, decide_eq_true_eq]

theorem groupOf_concat (items : List α) (last : α) (wanted : κ) :
    groupOf key (items ++ [last]) wanted =
      if key last = wanted then groupOf key items wanted ++ [last]
      else groupOf key items wanted := by
  unfold groupOf
  rw [List.filter_append]
  by_cases same : key last = wanted
  · rw [if_pos same, List.filter_cons_of_pos (by simpa using same), List.filter_nil]
  · rw [if_neg same, List.filter_cons_of_neg (by simpa using same), List.filter_nil,
      List.append_nil]

theorem groupOf_eq_nil_iff (items : List α) (wanted : κ) :
    groupOf key items wanted = [] ↔ ∀ item ∈ items, key item ≠ wanted := by
  rw [groupOf, List.filter_eq_nil_iff]
  simp only [decide_eq_true_eq]

section Gathering

variable (start : α → ν) (add : ν → α → ν)

/-- The first item of a key sets its value, and each item is added to it. -/
def gather (items : List α) : Dict κ ν :=
  items.foldl (fun dict item =>
    dict.set (key item) (add ((dict.get? (key item)).getD (start item)) item)) .empty

theorem gather_concat (items : List α) (last : α) :
    gather key start add (items ++ [last]) =
      (gather key start add items).set (key last)
        (add (((gather key start add items).get? (key last)).getD (start last)) last) := by
  unfold gather
  rw [List.foldl_append, List.foldl_cons, List.foldl_nil]

/-- A key has the fold over its group, if it has an item. -/
theorem get?_gather (items : List α) (wanted : κ) :
    (gather key start add items).get? wanted =
      (groupOf key items wanted).head?.map fun first =>
        (groupOf key items wanted).foldl add (start first) := by
  induction items using List.reverseRecOn generalizing wanted with
  | nil => rfl
  | append_singleton earlier last ih =>
      rw [gather_concat, Dict.get?_set, groupOf_concat]
      by_cases same : wanted = key last
      · rw [if_pos same, if_pos same.symm, ih, ← same]
        cases groupOf key earlier wanted with
        | nil => rfl
        | cons first rest =>
            rw [List.head?_cons, Option.map_some, Option.getD_some, List.cons_append,
              List.head?_cons, Option.map_some, ← List.cons_append, List.foldl_append]
            rfl
      · rw [if_neg same, if_neg (Ne.symm same), ih]

theorem mem_gather_iff (items : List α) (wanted : κ) (value : ν) :
    (wanted, value) ∈ (gather key start add items).items ↔
      ∃ first rest, groupOf key items wanted = first :: rest ∧
        value = (first :: rest).foldl add (start first) := by
  rw [← Dict.get?_eq_some_iff, get?_gather]
  cases groupOf key items wanted with
  | nil => simp
  | cons first rest =>
      rw [List.head?_cons, Option.map_some, Option.some.injEq]
      constructor
      · intro same
        exact ⟨first, rest, rfl, same.symm⟩
      · rintro ⟨_, _, ⟨⟩, same⟩
        exact same.symm

/-- A dictionary that is filled item by item holds the last value of each key. -/
theorem get?_foldl_set (value : α → ν) (items : List α) (dict : Dict κ ν) (wanted : κ) :
    (items.foldl (fun dict item => dict.set (key item) (value item)) dict).get? wanted =
      ((groupOf key items wanted).getLast?.map value).or (dict.get? wanted) := by
  induction items using List.reverseRecOn with
  | nil => rfl
  | append_singleton earlier last ih =>
      rw [List.foldl_append, List.foldl_cons, List.foldl_nil, Dict.get?_set, groupOf_concat]
      by_cases same : wanted = key last
      · rw [if_pos same, if_pos same.symm, List.getLast?_concat]
        rfl
      · rw [if_neg same, if_neg (Ne.symm same), ih]

end Gathering

section Totals

variable {β : Type*} [AddCommMonoid β] (value : α → β)

/-- The total of the items with a key. -/
def groupSum (items : List α) (wanted : κ) : β := ((groupOf key items wanted).map value).sum

theorem groupSum_cons (first : α) (items : List α) (wanted : κ) :
    groupSum key value (first :: items) wanted =
      (if key first = wanted then value first else 0) + groupSum key value items wanted := by
  unfold groupSum groupOf
  rw [List.filter_cons]
  by_cases same : key first = wanted
  · rw [if_pos same, if_pos (by simpa using same), List.map_cons, List.sum_cons]
  · rw [if_neg same, if_neg (by simpa using same), zero_add]

theorem groupSum_concat (items : List α) (last : α) (wanted : κ) :
    groupSum key value (items ++ [last]) wanted =
      groupSum key value items wanted + if key last = wanted then value last else 0 := by
  unfold groupSum
  rw [groupOf_concat]
  split
  · rw [List.map_append, List.sum_append, List.map_singleton, List.sum_singleton]
  · rw [add_zero]

/-- A key that is listed once takes its share once. -/
theorem sum_share (keys : List κ) (once : keys.Nodup) (wanted : κ) (listed : wanted ∈ keys)
    (share : β) : (keys.map fun other => if wanted = other then share else 0).sum = share := by
  induction keys with
  | nil => exact absurd listed List.not_mem_nil
  | cons other keys ih =>
      rw [List.map_cons, List.sum_cons]
      rw [List.nodup_cons] at once
      by_cases same : wanted = other
      · have rest : (keys.map fun other => if wanted = other then share else 0).sum = 0 := by
          apply List.sum_eq_zero
          intro part member
          obtain ⟨later, inside, rfl⟩ := List.mem_map.mp member
          rw [if_neg]
          rintro rfl
          exact once.1 (same ▸ inside)
        rw [if_pos same, rest, add_zero]
      · rw [if_neg same, zero_add]
        exact ih once.2 ((List.mem_cons.mp listed).resolve_left same)

/-- An addition at the place of a key adds to the share of that key only. -/
theorem modify_share (keys : List κ) (once : keys.Nodup) (place : ℕ) (wanted : κ)
    (found : keys[place]? = some wanted) (share : κ → β) (extra : β) :
    (keys.map share).modify place (· + extra) =
      keys.map fun other => share other + if wanted = other then extra else 0 := by
  apply List.ext_getElem?
  intro index
  rw [List.getElem?_modify, List.getElem?_map, List.getElem?_map]
  cases known : keys[index]? with
  | none => rfl
  | some other =>
      change some (if place = index then share other + extra else share other) =
        some (share other + if wanted = other then extra else 0)
      congr 1
      by_cases same : place = index
      · rw [same, known, Option.some.injEq] at found
        rw [if_pos same, if_pos found.symm]
      · rw [if_neg same, if_neg, add_zero]
        rintro rfl
        obtain ⟨bound, one⟩ := List.getElem?_eq_some_iff.mp found
        obtain ⟨within, two⟩ := List.getElem?_eq_some_iff.mp known
        exact same (once.getElem_inj_iff.mp (one.trans two.symm))

/-- The totals of the groups add up to the total. -/
theorem sum_groupSum (keys : List κ) (once : keys.Nodup) (items : List α)
    (listed : ∀ item ∈ items, key item ∈ keys) :
    (keys.map (groupSum key value items)).sum = (items.map value).sum := by
  induction items with
  | nil =>
      apply List.sum_eq_zero
      intro part member
      obtain ⟨wanted, _, rfl⟩ := List.mem_map.mp member
      rfl
  | cons first items ih =>
      have split : keys.map (groupSum key value (first :: items)) = keys.map fun wanted =>
          (if key first = wanted then value first else 0) + groupSum key value items wanted :=
        List.map_congr_left fun wanted _ => groupSum_cons key value first items wanted
      rw [split, List.sum_map_add,
        sum_share keys once (key first) (listed first List.mem_cons_self) (value first),
        List.map_cons, List.sum_cons,
        ih fun item member => listed item (List.mem_cons_of_mem first member)]

end Totals

end Library
