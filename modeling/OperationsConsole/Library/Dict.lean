/-
This file defines dictionaries that remember the insertion order of their keys.
An assignment to a present key keeps its position, and a new key comes last.
-/

import Mathlib.Data.List.Nodup
import Mathlib.Data.List.Perm.Basic

namespace Library

variable {κ ν : Type*}

/-- This list operation replaces the value of a present key or appends a new item. -/
def assignItem [DecidableEq κ] (key : κ) (value : ν) : List (κ × ν) → List (κ × ν)
  | [] => [(key, value)]
  | item :: rest =>
      if item.1 = key then (key, value) :: rest else item :: assignItem key value rest

/-- This loop removes the first item while the list is longer than the bound. -/
def trimItems (bound : Nat) : List (κ × ν) → List (κ × ν)
  | [] => []
  | item :: rest => if bound < rest.length + 1 then trimItems bound rest else item :: rest

/-- The loop drops exactly the surplus from the front. -/
theorem trimItems_eq_drop (bound : Nat) (items : List (κ × ν)) :
    trimItems bound items = items.drop (items.length - bound) := by
  induction items with
  | nil => simp [trimItems]
  | cons item rest ih =>
      simp only [trimItems, List.length_cons]
      split
      · have surplus : rest.length + 1 - bound = (rest.length - bound) + 1 := by omega
        rw [ih, surplus, List.drop_succ_cons]
      · have none : rest.length + 1 - bound = 0 := by omega
        rw [none, List.drop_zero]

/-- An assignment adds its key at the end, or it keeps the keys. -/
theorem assignItem_keys [DecidableEq κ] (key : κ) (value : ν) (items : List (κ × ν)) :
    (assignItem key value items).map Prod.fst =
      if key ∈ items.map Prod.fst then items.map Prod.fst else items.map Prod.fst ++ [key] := by
  induction items with
  | nil => simp [assignItem]
  | cons item rest ih =>
      by_cases same : item.1 = key
      · simp [assignItem, same]
      · have other : key ≠ item.1 := fun equal => same equal.symm
        simp only [assignItem, if_neg same, List.map_cons, ih, List.mem_cons, other, false_or]
        split <;> simp

theorem assignItem_of_new [DecidableEq κ] (key : κ) (value : ν) (items : List (κ × ν))
    (new : key ∉ items.map Prod.fst) : assignItem key value items = items ++ [(key, value)] := by
  induction items with
  | nil => rfl
  | cons item rest ih =>
      simp only [List.map_cons, List.mem_cons, not_or] at new
      have other : item.1 ≠ key := fun equal => new.1 equal.symm
      simp only [assignItem, if_neg other, ih new.2, List.cons_append]

/-- A dictionary holds each key once. -/
structure Dict (κ ν : Type*) where
  items : List (κ × ν)
  nodup : (items.map Prod.fst).Nodup
  deriving DecidableEq

namespace Dict

/-- The empty dictionary holds no item. -/
def empty : Dict κ ν := ⟨[], List.nodup_nil⟩

def length (dict : Dict κ ν) : Nat := dict.items.length

/-- This operation keeps the items that satisfy a test. -/
def filter (dict : Dict κ ν) (keep : κ → ν → Bool) : Dict κ ν where
  items := dict.items.filter fun item => keep item.1 item.2
  nodup := dict.nodup.sublist (List.filter_sublist.map Prod.fst)

/-- This comprehension computes a value for every key. -/
def mapValues {μ : Type*} (dict : Dict κ ν) (compute : κ → ν → μ) : Dict κ μ where
  items := dict.items.map fun item => (item.1, compute item.1 item.2)
  nodup := by
    rw [List.map_map]
    exact dict.nodup

/-- This loop removes the oldest items while the dictionary is larger than the bound. -/
def trim (dict : Dict κ ν) (bound : Nat) : Dict κ ν where
  items := trimItems bound dict.items
  nodup := by
    rw [trimItems_eq_drop]
    exact dict.nodup.sublist ((List.drop_sublist _ _).map Prod.fst)

/-- The trimmed dictionary keeps the newest items. -/
theorem items_trim (dict : Dict κ ν) (bound : Nat) :
    (dict.trim bound).items = dict.items.drop (dict.items.length - bound) :=
  trimItems_eq_drop bound dict.items

theorem length_trim_le (dict : Dict κ ν) (bound : Nat) : (dict.trim bound).length ≤ bound := by
  unfold length
  rw [items_trim, List.length_drop]
  omega

theorem length_filter_le (dict : Dict κ ν) (keep : κ → ν → Bool) :
    (dict.filter keep).length ≤ dict.length := List.length_filter_le _ _

variable [DecidableEq κ]

/-- This lookup reads the value of a key, if the key is present. -/
def get? (dict : Dict κ ν) (key : κ) : Option ν := dict.items.lookup key

/-- This assignment keeps the position of a present key. -/
def set (dict : Dict κ ν) (key : κ) (value : ν) : Dict κ ν where
  items := assignItem key value dict.items
  nodup := by
    rw [assignItem_keys]
    split
    · exact dict.nodup
    · rename_i absent
      exact List.nodup_append.mpr ⟨dict.nodup, List.nodup_singleton _, by
        intro first member second last
        rw [List.mem_singleton] at last
        intro equal
        exact absent (last ▸ equal ▸ member)⟩

/-- This operation removes a key, present or not. -/
def erase (dict : Dict κ ν) (key : κ) : Dict κ ν := dict.filter fun other _ => other ≠ key

/-- This assignment makes the key the newest one. -/
def push (dict : Dict κ ν) (key : κ) (value : ν) : Dict κ ν := (dict.erase key).set key value

/-- This lookup supplies a default value and stores it when the key is absent. -/
def setDefault (dict : Dict κ ν) (key : κ) (value : ν) : Dict κ ν :=
  if (dict.get? key).isSome then dict else dict.set key value

@[simp] theorem get?_empty (key : κ) : (empty : Dict κ ν).get? key = none := rfl

/-- A lookup finds exactly the stored items. -/
theorem get?_eq_some_iff (dict : Dict κ ν) (key : κ) (value : ν) :
    dict.get? key = some value ↔ (key, value) ∈ dict.items := by
  unfold get?
  have unique := dict.nodup
  revert unique
  induction dict.items with
  | nil => simp
  | cons item rest ih =>
      intro unique
      rw [List.map_cons, List.nodup_cons] at unique
      rw [List.lookup_cons, List.mem_cons]
      by_cases same : key = item.1
      · subst same
        have absent : (item.1, value) ∉ rest := fun member =>
          unique.1 (List.mem_map.mpr ⟨_, member, rfl⟩)
        simp only [beq_self_eq_true, Option.some.injEq, absent, or_false]
        exact ⟨fun equal => by rw [← equal], fun equal => congrArg Prod.snd equal.symm⟩
      · have different : (key, value) ≠ item := fun equal => same (congrArg Prod.fst equal)
        simp only [beq_eq_false_iff_ne.mpr same, different, false_or]
        exact ih unique.2

/-- A lookup fails exactly on the absent keys. -/
theorem get?_eq_none_iff (dict : Dict κ ν) (key : κ) :
    dict.get? key = none ↔ key ∉ dict.items.map Prod.fst := by
  rw [← not_iff_not, not_not, ← ne_eq, Option.ne_none_iff_exists', List.mem_map]
  constructor
  · rintro ⟨value, found⟩
    exact ⟨(key, value), (dict.get?_eq_some_iff key value).mp found, rfl⟩
  · rintro ⟨item, member, rfl⟩
    exact ⟨item.2, (dict.get?_eq_some_iff item.1 item.2).mpr member⟩

/-- A dictionary that answers no lookup is empty. -/
theorem eq_empty_of_get? (dict : Dict κ ν) (missing : ∀ key, dict.get? key = none) :
    dict = empty := by
  cases dict with
  | mk items unique =>
      cases items with
      | nil => rfl
      | cons first rest =>
          have absent := (get?_eq_none_iff ⟨first :: rest, unique⟩ first.1).mp (missing first.1)
          simp at absent

/-- A comprehension computes the value that a lookup finds. -/
@[simp] theorem get?_mapValues {μ : Type*} (dict : Dict κ ν) (compute : κ → ν → μ) (key : κ) :
    (dict.mapValues compute).get? key = (dict.get? key).map (compute key) := by
  apply Option.ext
  intro value
  rw [get?_eq_some_iff, Option.map_eq_some_iff, mapValues, List.mem_map]
  constructor
  · intro ⟨item, member, same⟩
    rw [Prod.mk.injEq] at same
    refine ⟨item.2, ?_, by rw [← same.1]; exact same.2⟩
    rw [get?_eq_some_iff, ← same.1]
    exact member
  · intro ⟨found, member, same⟩
    exact ⟨(key, found), (dict.get?_eq_some_iff key found).mp member, by rw [← same]⟩

/-- A filter hides the items that fail its test. -/
@[simp] theorem get?_filter (dict : Dict κ ν) (keep : κ → ν → Bool) (key : κ) :
    (dict.filter keep).get? key = (dict.get? key).filter (keep key) := by
  apply Option.ext
  intro value
  rw [get?_eq_some_iff, Option.filter_eq_some_iff, get?_eq_some_iff]
  exact List.mem_filter

/-- An erased key is absent and every other key is unchanged. -/
@[simp] theorem get?_erase (dict : Dict κ ν) (key other : κ) :
    (dict.erase key).get? other = if other = key then none else dict.get? other := by
  unfold erase
  rw [get?_filter]
  split
  · rename_i same
    simp [same]
  · rename_i different
    cases dict.get? other <;> simp [different]

/-- An assignment replaces the item of its key only. -/
theorem mem_assignItem (key : κ) (value : ν) (items : List (κ × ν)) (item : κ × ν)
    (unique : (items.map Prod.fst).Nodup) :
    item ∈ assignItem key value items ↔ item = (key, value) ∨ item.1 ≠ key ∧ item ∈ items := by
  induction items with
  | nil => simp [assignItem]
  | cons first rest ih =>
      rw [List.map_cons, List.nodup_cons] at unique
      by_cases same : first.1 = key
      · have absent : item ∈ rest → item.1 ≠ key := by
          intro member equal
          exact unique.1 (by rw [same, ← equal]; exact List.mem_map_of_mem member)
        simp only [assignItem, if_pos same, List.mem_cons]
        constructor
        · rintro (equal | member)
          · exact .inl equal
          · exact .inr ⟨absent member, .inr member⟩
        · rintro (equal | ⟨different, equal | member⟩)
          · exact .inl equal
          · exact absurd (by rw [equal, same]) different
          · exact .inr member
      · simp only [assignItem, if_neg same, List.mem_cons, ih unique.2]
        constructor
        · rintro (equal | equal | ⟨different, member⟩)
          · exact .inr ⟨by rw [equal]; exact same, .inl equal⟩
          · exact .inl equal
          · exact .inr ⟨different, .inr member⟩
        · rintro (equal | ⟨different, equal | member⟩)
          · exact .inr (.inl equal)
          · exact .inl equal
          · exact .inr (.inr ⟨different, member⟩)

/-- A lookup after an assignment reads the assigned value. -/
@[simp] theorem get?_set (dict : Dict κ ν) (key other : κ) (value : ν) :
    (dict.set key value).get? other = if other = key then some value else dict.get? other := by
  apply Option.ext
  intro found
  rw [get?_eq_some_iff]
  change (other, found) ∈ assignItem key value dict.items ↔ _
  rw [mem_assignItem _ _ _ _ dict.nodup]
  split
  · rename_i same
    simp [same, eq_comm]
  · rename_i different
    simp [different, get?_eq_some_iff]

/-- What is found after an erasure was there under another key. -/
theorem get?_of_erase (dict : Dict κ ν) (key other : κ) (value : ν)
    (found : (dict.erase key).get? other = some value) :
    other ≠ key ∧ dict.get? other = some value := by
  rw [get?_erase] at found
  split at found
  · simp at found
  · rename_i different
    exact ⟨different, found⟩

/-- What is found after an assignment is the new value, or it was there under another key. -/
theorem get?_of_set (dict : Dict κ ν) (key other : κ) (added value : ν)
    (found : (dict.set key added).get? other = some value) :
    other = key ∧ value = added ∨ other ≠ key ∧ dict.get? other = some value := by
  rw [get?_set] at found
  split at found
  · rename_i same
    exact .inl ⟨same, (Option.some.inj found).symm⟩
  · rename_i different
    exact .inr ⟨different, found⟩

/-- What is found after a push was pushed or was there. -/
theorem get?_of_push (dict : Dict κ ν) (key other : κ) (added value : ν)
    (found : (dict.push key added).get? other = some value) :
    other = key ∧ value = added ∨ other ≠ key ∧ dict.get? other = some value := by
  rcases get?_of_set _ _ _ _ _ found with new | ⟨different, erased⟩
  · exact .inl new
  · exact .inr ⟨different, (get?_of_erase _ _ _ _ erased).2⟩

/-- A default is set only for a key without a value. -/
@[simp] theorem get?_setDefault (dict : Dict κ ν) (key other : κ) (value : ν) :
    (dict.setDefault key value).get? other =
      if other = key then some ((dict.get? key).getD value) else dict.get? other := by
  unfold setDefault
  cases found : dict.get? key with
  | none => simp
  | some old =>
      simp only [Option.isSome_some, if_true, Option.getD_some]
      split
      · rename_i same
        rw [same, found]
      · rfl

/-- The erased key leaves the other items in order. -/
theorem items_erase (dict : Dict κ ν) (key : κ) :
    (dict.erase key).items = dict.items.filter fun item => item.1 ≠ key := rfl

/-- A new key is stored last. -/
theorem items_set_of_new (dict : Dict κ ν) (key : κ) (value : ν) (new : dict.get? key = none) :
    (dict.set key value).items = dict.items ++ [(key, value)] :=
  assignItem_of_new key value dict.items ((dict.get?_eq_none_iff key).mp new)

/-- A pushed key is stored last. -/
theorem items_push (dict : Dict κ ν) (key : κ) (value : ν) :
    (dict.push key value).items = (dict.erase key).items ++ [(key, value)] :=
  items_set_of_new _ _ _ (by simp)

/-- The trim only removes items. -/
theorem get?_of_trim (dict : Dict κ ν) (bound : Nat) (key : κ) (value : ν)
    (found : (dict.trim bound).get? key = some value) : dict.get? key = some value := by
  rw [get?_eq_some_iff, items_trim] at found
  rw [get?_eq_some_iff]
  exact List.mem_of_mem_drop found

/-- A trim with room for one item keeps the item that was just pushed. -/
theorem get?_trim_push (dict : Dict κ ν) (key : κ) (value : ν) (bound : Nat) (room : 0 < bound) :
    ((dict.push key value).trim bound).get? key = some value := by
  rw [get?_eq_some_iff, items_trim, items_push, List.length_append, List.length_singleton,
    List.drop_append_of_le_length (by omega)]
  exact List.mem_append_right _ (List.mem_singleton_self _)

/-- A fold that acts at one key acts once, on the value of that key. -/
theorem foldl_at_key {μ : Type*} (dict : Dict κ ν) (key : κ) (act : μ → ν → μ) (start : μ) :
    dict.items.foldl (fun memory item => if item.1 = key then act memory item.2 else memory) start =
      match dict.get? key with
      | none => start
      | some value => act start value := by
  unfold get?
  have unique := dict.nodup
  revert unique
  induction dict.items generalizing start with
  | nil => intro _; rfl
  | cons item rest ih =>
      intro unique
      rw [List.map_cons, List.nodup_cons] at unique
      rw [List.foldl_cons, ih _ unique.2, List.lookup_cons]
      by_cases same : item.1 = key
      · have absent : rest.lookup key = none := by
          rw [List.lookup_eq_none_iff]
          intro other member
          have different : key ≠ other.1 := fun equal =>
            unique.1 (List.mem_map.mpr ⟨other, member, by rw [← equal, same]⟩)
          exact bne_iff_ne.mpr different
        simp [same, absent]
      · have different : key ≠ item.1 := fun equal => same equal.symm
        simp [same, beq_eq_false_iff_ne.mpr different]

theorem length_erase_le (dict : Dict κ ν) (key : κ) : (dict.erase key).length ≤ dict.length :=
  dict.length_filter_le _

/-- A loop that assigns to other keys leaves a key unchanged. -/
theorem get?_foldl_set_of_absent {α : Type*} (items : List (κ × α)) (compute : κ × α → ν)
    (dict : Dict κ ν) (key : κ) (absent : key ∉ items.map Prod.fst) :
    (items.foldl (fun dict item => dict.set item.1 (compute item)) dict).get? key =
      dict.get? key := by
  induction items generalizing dict with
  | nil => rfl
  | cons first rest ih =>
      rw [List.map_cons, List.mem_cons, not_or] at absent
      rw [List.foldl_cons, ih _ absent.2, get?_set, if_neg absent.1]

/-- A loop over distinct keys leaves the value that each of its items assigns. -/
theorem get?_foldl_set {α : Type*} (items : List (κ × α)) (compute : κ × α → ν)
    (dict : Dict κ ν) (unique : (items.map Prod.fst).Nodup) (item : κ × α)
    (member : item ∈ items) :
    (items.foldl (fun dict item => dict.set item.1 (compute item)) dict).get? item.1 =
      some (compute item) := by
  induction items generalizing dict with
  | nil => simp at member
  | cons first rest ih =>
      rw [List.map_cons, List.nodup_cons] at unique
      rw [List.foldl_cons]
      rcases List.mem_cons.mp member with equal | later
      · rw [equal, get?_foldl_set_of_absent _ _ _ _ unique.1, get?_set, if_pos rfl]
      · exact ih _ unique.2 later

end Dict

end Library
