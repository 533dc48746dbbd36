/-
This file compares two ways to add several tracks: by the positions of their entries, and by their
keys. The sums of the first entries tell the two ways apart.
-/

import Mathlib.Algebra.BigOperators.Group.List.Lemmas
import Mathlib.Data.List.Sort
import OperationsConsole.Library.Grouping

namespace Library

variable {κ β : Type*} [LinearOrder κ] [AddCommGroup β]

/-- The total of the entries of a track. -/
def total (track : List (κ × β)) : β := (track.map Prod.snd).sum

/-- The entry at a position counts zero if the track is shorter. -/
def positionSum (tracks : List (List (κ × β))) (position : ℕ) : β :=
  (tracks.map fun track => (track[position]?.map Prod.snd).getD 0).sum

/-- A track without an entry of a key counts zero. -/
def keySum (tracks : List (List (κ × β))) (key : κ) : β :=
  (tracks.map fun track => groupSum Prod.fst Prod.snd track key).sum

/-- The entries that stand among the first ones, but whose keys are not among the first keys. -/
def displaced (keys : List κ) (count : ℕ) (track : List (κ × β)) : List (κ × β) :=
  (track.take count).filter fun entry => entry.1 ∉ keys.take count

section Counting

variable (keys : List κ) (track : List (κ × β))

theorem total_filter_concat (first : List κ) (last : κ) (new : last ∉ first) :
    total (track.filter fun entry => entry.1 ∈ first ++ [last]) =
      total (track.filter fun entry => entry.1 ∈ first) + groupSum Prod.fst Prod.snd track last := by
  induction track with
  | nil => exact (add_zero _).symm
  | cons entry track ih =>
      rw [groupSum_cons]
      by_cases same : entry.1 = last
      · have out : entry.1 ∉ first := same ▸ new
        rw [List.filter_cons_of_pos (by simp [same]), List.filter_cons_of_neg (by simpa using out),
          if_pos same]
        unfold total at ih ⊢
        rw [List.map_cons, List.sum_cons, ih, add_left_comm]
      · rw [if_neg same, zero_add]
        by_cases early : entry.1 ∈ first
        · rw [List.filter_cons_of_pos (by simp [early]), List.filter_cons_of_pos (by simp [early])]
          unfold total at ih ⊢
          rw [List.map_cons, List.sum_cons, ih, List.map_cons, List.sum_cons, add_assoc]
        · rw [List.filter_cons_of_neg (by simp [early, same]),
            List.filter_cons_of_neg (by simp [early]), ih]

omit [LinearOrder κ] in
theorem total_take_succ (position : ℕ) :
    total (track.take (position + 1)) =
      total (track.take position) + (track[position]?.map Prod.snd).getD 0 := by
  unfold total
  rw [List.take_add_one, List.map_append, List.sum_append]
  cases track[position]? with
  | none => rfl
  | some entry => simp

/-- The keys before a place of an ordered listing are the smaller ones. -/
theorem mem_take_of_lt (sorted : keys.Pairwise (· < ·)) (place : ℕ) (inside : place < keys.length)
    (key : κ) (listed : key ∈ keys) (less : key < keys[place]) : key ∈ keys.take place := by
  obtain ⟨index, bound, rfl⟩ := List.getElem_of_mem listed
  have earlier : index < place := by
    by_contra later
    rcases Nat.eq_or_lt_of_le (not_lt.mp later) with same | after
    · subst same
      exact lt_irrefl _ less
    · exact lt_asymm less (List.pairwise_iff_getElem.mp sorted place index inside bound after)
  rw [List.mem_take_iff_getElem]
  exact ⟨index, by omega, rfl⟩

omit [AddCommGroup β] in
/-- An entry of an ordered track stands no later than its key among all the keys. -/
theorem position_le_place (ordered : (track.map Prod.fst).Pairwise (· < ·))
    (sorted : keys.Pairwise (· < ·)) (listed : track.map Prod.fst ⊆ keys) (position place : ℕ)
    (held : position < track.length) (inside : place < keys.length)
    (same : track[position].1 = keys[place]) : position ≤ place := by
  have subset : (track.map Prod.fst).take position ⊆ keys.take place := by
    intro key member
    obtain ⟨index, bound, rfl⟩ := List.mem_take_iff_getElem.mp member
    have less := List.pairwise_iff_getElem.mp ordered index position (by omega)
      (by rw [List.length_map]; exact held) (by omega)
    rw [List.getElem_map _ (i := position), same] at less
    exact mem_take_of_lt keys sorted place inside _ (listed (List.getElem_mem _)) less
  have once : ((track.map Prod.fst).take position).Nodup :=
    (ordered.sublist (List.take_sublist _ _)).imp ne_of_lt
  have fits := (List.subperm_of_subset once subset).length_le
  rw [List.length_take, List.length_take, List.length_map] at fits
  omega

omit [AddCommGroup β] in
/-- The first keys belong to some of the first entries. -/
theorem filter_eq_take (ordered : (track.map Prod.fst).Pairwise (· < ·))
    (sorted : keys.Pairwise (· < ·)) (listed : track.map Prod.fst ⊆ keys) (count : ℕ) :
    (track.filter fun entry => entry.1 ∈ keys.take count) =
      (track.take count).filter fun entry => entry.1 ∈ keys.take count := by
  have later : (track.drop count).filter (fun entry => entry.1 ∈ keys.take count) = [] := by
    rw [List.filter_eq_nil_iff]
    intro entry member early
    obtain ⟨index, bound, rfl⟩ := List.getElem_of_mem member
    obtain ⟨place, inside, same⟩ := List.mem_take_iff_getElem.mp (of_decide_eq_true early)
    rw [List.length_drop] at bound
    rw [List.getElem_drop] at same
    have order := position_le_place keys track ordered sorted listed (count + index) place
      (by omega) (by omega) same.symm
    omega
  conv_lhs => rw [← List.take_append_drop count track]
  rw [List.filter_append, later, List.append_nil]

/-- The first entries are those with the first keys and the displaced ones. -/
theorem total_take (ordered : (track.map Prod.fst).Pairwise (· < ·))
    (sorted : keys.Pairwise (· < ·)) (listed : track.map Prod.fst ⊆ keys) (count : ℕ) :
    total (track.take count) = total (track.filter fun entry => entry.1 ∈ keys.take count) +
      total (displaced keys count track) := by
  rw [filter_eq_take keys track ordered sorted listed]
  unfold displaced
  generalize track.take count = first
  induction first with
  | nil => exact (add_zero _).symm
  | cons entry first ih =>
      unfold total at ih ⊢
      by_cases early : entry.1 ∈ keys.take count
      · rw [List.filter_cons_of_pos (by simpa using early),
          List.filter_cons_of_neg (by simpa using early), List.map_cons, List.sum_cons, ih,
          List.map_cons, List.sum_cons, add_assoc]
      · rw [List.filter_cons_of_neg (by simpa using early),
          List.filter_cons_of_pos (by simpa using early), List.map_cons, List.sum_cons, ih,
          List.map_cons, List.sum_cons, add_left_comm]

end Counting

section Comparing

variable (keys : List κ) (tracks : List (List (κ × β)))

/-- The total of the first entries of all tracks. -/
def firstEntries (count : ℕ) : β := (tracks.map fun track => total (track.take count)).sum

/-- The total of the entries with one of the first keys. -/
def firstKeys (count : ℕ) : β :=
  (tracks.map fun track => total (track.filter fun entry => entry.1 ∈ keys.take count)).sum

/-- The total of the displaced entries. -/
def displacedSum (count : ℕ) : β := (tracks.map fun track => total (displaced keys count track)).sum

omit [LinearOrder κ] in
theorem firstEntries_succ (place : ℕ) :
    firstEntries tracks (place + 1) = firstEntries tracks place + positionSum tracks place := by
  unfold firstEntries positionSum
  rw [← List.sum_map_add]
  simp only [total_take_succ]

theorem firstKeys_succ (once : keys.Nodup) (place : ℕ) (inside : place < keys.length) :
    firstKeys keys tracks (place + 1) = firstKeys keys tracks place + keySum tracks keys[place] := by
  have new : keys[place] ∉ keys.take place := by
    intro member
    obtain ⟨index, bound, same⟩ := List.mem_take_iff_getElem.mp member
    have equal := once.getElem_inj_iff.mp same
    omega
  unfold firstKeys keySum
  rw [← List.sum_map_add, List.take_add_one, List.getElem?_eq_getElem inside, Option.toList_some]
  simp only [total_filter_concat _ _ _ new]

theorem firstEntries_eq (sorted : keys.Pairwise (· < ·))
    (ordered : ∀ track ∈ tracks, (track.map Prod.fst).Pairwise (· < ·))
    (listed : ∀ track ∈ tracks, track.map Prod.fst ⊆ keys) (count : ℕ) :
    firstEntries tracks count = firstKeys keys tracks count + displacedSum keys tracks count := by
  unfold firstEntries firstKeys displacedSum
  rw [← List.sum_map_add]
  congr 1
  apply List.map_congr_left
  intro track member
  exact total_take keys track (ordered track member) sorted (listed track member) count

/-- The sums by position are the sums by key exactly if the values that are displaced among the
first entries add up to zero, for every number of them. -/
theorem positionSum_eq_keySum_iff (sorted : keys.Pairwise (· < ·))
    (ordered : ∀ track ∈ tracks, (track.map Prod.fst).Pairwise (· < ·))
    (listed : ∀ track ∈ tracks, track.map Prod.fst ⊆ keys) :
    (∀ place, ∀ inside : place < keys.length,
        positionSum tracks place = keySum tracks keys[place]) ↔
      ∀ count ≤ keys.length, displacedSum keys tracks count = 0 := by
  have parts := firstEntries_eq keys tracks sorted ordered listed
  have settled (count : ℕ) : displacedSum keys tracks count = 0 ↔
      firstEntries tracks count = firstKeys keys tracks count := by
    rw [parts count, add_eq_left]
  simp only [settled]
  constructor
  · intro same count within
    induction count with
    | zero => simp [firstEntries, firstKeys, total]
    | succ count ih =>
        rw [firstEntries_succ, firstKeys_succ keys tracks (sorted.imp ne_of_lt) count within,
          ih (by omega), same count within]
  · intro sums place inside
    have before := sums place inside.le
    have after := sums (place + 1) inside
    rw [firstEntries_succ, firstKeys_succ keys tracks (sorted.imp ne_of_lt) place inside,
      before] at after
    exact add_left_cancel after

end Comparing

end Library
