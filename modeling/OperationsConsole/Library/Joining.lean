/-
This file joins several tracks by their keys. A loop that gathers the entries in a dictionary meets
the keys of the first track first, so a key of all tracks keeps the place it has there.
-/

import Mathlib.Algebra.Order.BigOperators.Group.List
import OperationsConsole.Library.Alignment
import OperationsConsole.Library.Listing

namespace Library

section Order

variable {α κ ν : Type*} [DecidableEq κ] (key : α → κ) (start : α → ν) (add : ν → α → ν)

/-- A dictionary lists each key where it is met first. -/
theorem gather_keys (items : List α) :
    (gather key start add items).items.map Prod.fst = (items.map key).eraseDups := by
  induction items using List.reverseRecOn with
  | nil => rfl
  | append_singleton earlier last ih =>
      rw [gather_concat, List.map_append, List.map_singleton, List.eraseDups_append, ← ih]
      change (assignItem _ _ _).map Prod.fst = _
      rw [assignItem_keys]
      by_cases known : key last ∈ (gather key start add earlier).items.map Prod.fst
      · have listed : key last ∈ earlier.map key := by
          rw [ih] at known
          exact List.mem_eraseDups.mp known
        have none : [key last].removeAll (earlier.map key) = [] := by
          simpa [List.removeAll] using List.mem_map.mp listed
        rw [if_pos known, none, List.eraseDups_nil, List.append_nil]
      · have new : key last ∉ earlier.map key := by
          rw [ih, List.mem_eraseDups] at known
          exact known
        have one : [key last].removeAll (earlier.map key) = [key last] := by
          simpa [List.removeAll] using new
        rw [if_neg known, one]
        rfl

variable (zero : ν)

/-- The value of a key is the fold over its group. -/
theorem gather_items (items : List α) :
    (gather key (fun _ => zero) add items).items =
      (items.map key).eraseDups.map fun wanted => (wanted, (groupOf key items wanted).foldl add zero) := by
  rw [← gather_keys key (fun _ => zero) add, List.map_map]
  conv_lhs => rw [← List.map_id (gather key (fun _ => zero) add items).items]
  apply List.map_congr_left
  rintro ⟨wanted, value⟩ member
  obtain ⟨first, rest, group, folded⟩ := (mem_gather_iff key (fun _ => zero) add items wanted
    value).mp member
  rw [Function.comp_apply, group, folded]
  rfl

/-- If only keys of the first items are complete, then the complete keys stand in the order of the
first items. -/
theorem gather_complete (first rest : List α) (complete : ν → Bool)
    (once : (first.map key).Nodup)
    (within : ∀ wanted, complete ((groupOf key (first ++ rest) wanted).foldl add zero) = true →
      wanted ∈ first.map key) :
    ((gather key (fun _ => zero) add (first ++ rest)).items.filter fun item => complete item.2) =
      ((first.map key).filter fun wanted =>
        complete ((groupOf key (first ++ rest) wanted).foldl add zero)).map fun wanted =>
          (wanted, (groupOf key (first ++ rest) wanted).foldl add zero) := by
  have later : (((rest.map key).removeAll (first.map key)).eraseDups.filter fun wanted =>
      complete ((groupOf key (first ++ rest) wanted).foldl add zero)) = [] := by
    rw [List.filter_eq_nil_iff]
    intro wanted member held
    have fresh := List.mem_eraseDups.mp member
    rw [List.removeAll, List.mem_filter] at fresh
    simp [within wanted held] at fresh
  rw [gather_items, List.filter_map, List.map_append, List.eraseDups_append,
    eraseDups_of_nodup _ once]
  change (List.filter (fun wanted =>
    complete ((groupOf key (first ++ rest) wanted).foldl add zero)) _).map _ = _
  rw [List.filter_append, later, List.append_nil]

end Order

section Completeness

variable {α κ : Type*} [DecidableEq κ] (key : α → κ)

/-- A group has an item for each time its key stands in the list. -/
theorem length_groupOf (items : List α) (wanted : κ) :
    (groupOf key items wanted).length = (items.map key).count wanted := by
  rw [groupOf, List.count, List.countP_map, List.countP_eq_length_filter]
  congr 1

/-- A key is counted once for each track exactly if every track has it. -/
theorem count_flatten_iff (tracks : List (List α))
    (once : ∀ track ∈ tracks, (track.map key).Nodup) (wanted : κ) :
    (groupOf key tracks.flatten wanted).length ≤ tracks.length ∧
      ((groupOf key tracks.flatten wanted).length = tracks.length ↔
        ∀ track ∈ tracks, wanted ∈ track.map key) := by
  induction tracks with
  | nil => simp [groupOf]
  | cons track tracks ih =>
      have others := ih fun other member => once other (List.mem_cons_of_mem track member)
      have single := List.nodup_iff_count_le_one.mp (once track List.mem_cons_self) wanted
      have present := List.count_pos_iff (a := wanted) (l := track.map key)
      rw [List.flatten_cons, groupOf, List.filter_append, List.length_append, List.length_cons,
        List.forall_mem_cons, ← others.2, ← present]
      change (groupOf key track wanted).length + (groupOf key tracks.flatten wanted).length ≤ _ ∧
        ((groupOf key track wanted).length + (groupOf key tracks.flatten wanted).length = _ ↔ _)
      rw [length_groupOf key track]
      omega

end Completeness

section Tracks

variable {κ β ι ν : Type*} [DecidableEq κ] [DecidableEq ι]

/-- These keys stand in every track, in the order of the first track. -/
def shared : List (List (κ × β)) → List κ
  | [] => []
  | first :: rest => (first.map Prod.fst).filter fun key => ∀ track ∈ rest, key ∈ track.map Prod.fst

/-- A key is shared if every track has it. -/
theorem mem_shared_iff (tracks : List (List (κ × β))) (key : κ) :
    key ∈ shared tracks ↔ tracks ≠ [] ∧ ∀ track ∈ tracks, key ∈ track.map Prod.fst := by
  cases tracks with
  | nil => simp [shared]
  | cons first rest =>
      rw [shared, List.mem_filter, decide_eq_true_eq, List.forall_mem_cons]
      exact ⟨fun both => ⟨List.cons_ne_nil first rest, both⟩, And.right⟩

/-- Names tell entries apart when they tell their keys apart. -/
def Telling (name : κ → ι) (entries : List (κ × β)) : Prop :=
  ∀ first ∈ entries, ∀ second ∈ entries, name first.1 = name second.1 → first.1 = second.1

/-- Names that tell the keys apart make the groups of the keys. -/
theorem Telling.groupOf {name : κ → ι} {entries : List (κ × β)} (telling : Telling name entries)
    (entry : κ × β) (member : entry ∈ entries) :
    groupOf (fun entry => name entry.1) entries (name entry.1) =
      groupOf Prod.fst entries entry.1 := by
  apply List.filter_congr
  intro other inside
  rw [decide_eq_decide]
  exact ⟨telling other inside entry member, congrArg name⟩

omit [DecidableEq κ] [DecidableEq ι] in
/-- Names that tell the keys apart repeat no key. -/
theorem Telling.nodup {name : κ → ι} {entries : List (κ × β)} (telling : Telling name entries)
    (track : List (κ × β)) (part : track ⊆ entries) (once : (track.map Prod.fst).Nodup) :
    (track.map fun entry => name entry.1).Nodup := by
  apply (List.Nodup.of_map _ once).map_on
  intro one inside two within same
  exact List.inj_on_of_nodup_map once inside within
    (telling one (part inside) two (part within) same)

/-- The join lists the shared keys in order, when a value is complete exactly if it gathers one
entry of each track. The entries may be gathered under names that tell them apart. -/
theorem gather_shared (name : κ → ι) (add : ν → κ × β → ν) (zero : ν) (complete : ν → Bool)
    (tracks : List (List (κ × β))) (telling : Telling name tracks.flatten)
    (once : ∀ track ∈ tracks, (track.map Prod.fst).Nodup)
    (counts : ∀ group, complete (List.foldl add zero group) = true ↔ group.length = tracks.length) :
    ((gather (fun entry => name entry.1) (fun _ => zero) add tracks.flatten).items.filter
        fun item => complete item.2) =
      (shared tracks).map fun key =>
        (name key, (groupOf Prod.fst tracks.flatten key).foldl add zero) := by
  cases tracks with
  | nil => rfl
  | cons first rest =>
      have onceNamed : ∀ track ∈ first :: rest, (track.map fun entry => name entry.1).Nodup :=
        fun track member => telling.nodup track
          (fun _ inside => List.mem_flatten_of_mem member inside) (once track member)
      have listed : ∀ entry ∈ first, entry ∈ (first :: rest).flatten := fun _ member =>
        List.mem_flatten_of_mem List.mem_cons_self member
      rw [List.flatten_cons, gather_complete]
      · have kept : (first.filter fun entry => complete ((groupOf (fun entry => name entry.1)
            (first ++ rest.flatten) (name entry.1)).foldl add zero)) =
            first.filter fun entry => ∀ track ∈ rest, entry.1 ∈ track.map Prod.fst := by
          apply List.filter_congr
          intro entry member
          have all := (count_flatten_iff Prod.fst (first :: rest) once entry.1).2
          rw [Bool.eq_iff_iff, counts, ← List.flatten_cons, telling.groupOf entry (listed entry member),
            all, decide_eq_true_eq, List.forall_mem_cons]
          exact and_iff_right (List.mem_map_of_mem member)
        rw [shared, List.filter_map, List.filter_map, List.map_map, List.map_map]
        change (first.filter _).map _ = (first.filter _).map _
        rw [Function.comp_def, Function.comp_def, kept]
        apply List.map_congr_left
        intro entry member
        change (name entry.1, _) = (name entry.1, _)
        rw [← List.flatten_cons,
          telling.groupOf entry (listed entry (List.mem_of_mem_filter member))]
      · exact onceNamed first List.mem_cons_self
      · intro wanted held
        have counted := (counts _).mp held
        exact ((count_flatten_iff _ (first :: rest) onceNamed wanted).2.mp counted) first
          List.mem_cons_self

end Tracks

section Rising

variable {κ β : Type*} [LinearOrder κ] [AddCommGroup β]

/-- The sum of a group over all tracks is the sum of the sums. -/
theorem groupSum_flatten (tracks : List (List (κ × β))) (key : κ) :
    groupSum Prod.fst Prod.snd tracks.flatten key = keySum tracks key := by
  induction tracks with
  | nil => rfl
  | cons track tracks ih =>
      unfold keySum at ih ⊢
      rw [List.map_cons, List.sum_cons, ← ih, List.flatten_cons, groupSum, groupOf,
        List.filter_append, List.map_append, List.sum_append]
      rfl

/-- A key that stands once has the value of its entry. -/
theorem groupSum_of_mem (track : List (κ × β)) (once : (track.map Prod.fst).Nodup)
    (entry : κ × β) (member : entry ∈ track) :
    groupSum Prod.fst Prod.snd track entry.1 = entry.2 := by
  induction track with
  | nil => exact absurd member List.not_mem_nil
  | cons first rest ih =>
      rw [List.map_cons, List.nodup_cons] at once
      rw [groupSum_cons]
      rcases List.mem_cons.mp member with equal | later
      · have none : groupOf Prod.fst rest entry.1 = [] := by
          rw [groupOf_eq_nil_iff]
          intro other inside same
          exact once.1 (equal ▸ same ▸ List.mem_map_of_mem inside)
        rw [groupSum, none, if_pos (by rw [equal]), equal, List.map_nil, List.sum_nil, add_zero]
      · have other : first.1 ≠ entry.1 := fun same =>
          once.1 (same ▸ List.mem_map_of_mem later)
        rw [if_neg other, zero_add]
        exact ih once.2 later

variable [LinearOrder β]

/-- The keys of a rising track increase, and its values never fall. -/
def Rising (track : List (κ × β)) : Prop :=
  track.Pairwise fun earlier later => earlier.1 < later.1 ∧ earlier.2 ≤ later.2

omit [AddCommGroup β] in
theorem Rising.increasing {track : List (κ × β)} (rising : Rising track) :
    (track.map Prod.fst).Pairwise (· < ·) :=
  List.pairwise_map.mpr (rising.imp And.left)

omit [AddCommGroup β] in
theorem Rising.once {track : List (κ × β)} (rising : Rising track) :
    (track.map Prod.fst).Nodup :=
  rising.increasing.imp ne_of_lt

omit [AddCommGroup β] in
/-- The shared keys of rising tracks increase. -/
theorem shared_increasing (tracks : List (List (κ × β))) (rising : ∀ track ∈ tracks, Rising track) :
    (shared tracks).Pairwise (· < ·) := by
  cases tracks with
  | nil => exact List.Pairwise.nil
  | cons first rest => exact (rising first List.mem_cons_self).increasing.filter _

/-- A rising track is not lower at a later key. -/
theorem Rising.groupSum_le {track : List (κ × β)} (rising : Rising track) (earlier later : κ)
    (ordered : earlier ≤ later) (first : earlier ∈ track.map Prod.fst)
    (second : later ∈ track.map Prod.fst) :
    groupSum Prod.fst Prod.snd track earlier ≤ groupSum Prod.fst Prod.snd track later := by
  obtain ⟨one, inside, rfl⟩ := List.mem_map.mp first
  obtain ⟨two, within, rfl⟩ := List.mem_map.mp second
  rw [groupSum_of_mem track rising.once one inside, groupSum_of_mem track rising.once two within]
  let NoFall (one two : κ × β) : Prop := one.1 ≤ two.1 → one.2 ≤ two.2
  have ahead : track.Pairwise NoFall := rising.imp fun both _ => both.2
  have back : track.Pairwise (flip NoFall) := rising.imp fun both reversed =>
    absurd both.1 (not_lt.mpr reversed)
  have all := ahead.forall_of_forall_of_flip (fun _ _ _ => le_rfl) back
  exact all inside within ordered

variable [IsOrderedAddMonoid β] (tracks : List (List (κ × β)))

/-- The sum over rising tracks never falls along their shared keys. -/
theorem keySum_le (rising : ∀ track ∈ tracks, Rising track) (earlier later : κ)
    (ordered : earlier ≤ later) (first : earlier ∈ shared tracks) (second : later ∈ shared tracks) :
    keySum tracks earlier ≤ keySum tracks later := by
  apply List.sum_le_sum
  intro track member
  exact (rising track member).groupSum_le earlier later ordered
    (((mem_shared_iff tracks earlier).mp first).2 track member)
    (((mem_shared_iff tracks later).mp second).2 track member)

/-- A sum of counts is not negative. -/
theorem keySum_nonneg (counted : ∀ track ∈ tracks, ∀ entry ∈ track, 0 ≤ entry.2) (key : κ) :
    0 ≤ keySum tracks key := by
  apply List.sum_nonneg
  intro sum member
  obtain ⟨track, inside, rfl⟩ := List.mem_map.mp member
  apply List.sum_nonneg
  intro value within
  obtain ⟨entry, grouped, rfl⟩ := List.mem_map.mp within
  exact counted track inside entry (List.mem_of_mem_filter grouped)

end Rising

end Library
