/-
This file defines a consumer that keeps the largest key it has seen and drops smaller ones.
A snapshot and a stream with increasing keys then reach the consumer exactly once.
-/

import Mathlib.Data.List.Basic
import Mathlib.Data.List.Pairwise

namespace Library

variable {α : Type*} (key : α → Nat)

/-- The consumer takes an item above its mark and drops every other one. -/
def absorb (state : Nat × List α) (item : α) : Nat × List α :=
  if key item ≤ state.1 then state else (key item, state.2 ++ [item])

/-- The mark of a snapshot is its largest key. -/
def markOf (snapshot : List α) : Nat := snapshot.foldl (fun mark item => max mark (key item)) 0

/-- A stream with increasing keys leaves exactly its items above the mark. -/
theorem foldl_absorb (items : List α) (mark : Nat) (taken : List α)
    (increasing : items.Pairwise fun first second => key first < key second) :
    (items.foldl (absorb key) (mark, taken)).2 =
      taken ++ items.filter fun item => mark < key item := by
  induction items generalizing mark taken with
  | nil => simp
  | cons item rest ih =>
      obtain ⟨above, increasing⟩ := List.pairwise_cons.mp increasing
      rw [List.foldl_cons, absorb]
      split
      · rename_i low
        rw [ih mark taken increasing, List.filter_cons_of_neg (by simpa using low)]
      · rename_i high
        have same : rest.filter (fun later => key item < key later) =
            rest.filter fun later => mark < key later := by
          apply List.filter_congr
          intro later member
          have larger := above later member
          simp only [decide_eq_decide]
          omega
        rw [ih _ _ increasing, same, List.filter_cons_of_pos (by simpa using high),
          List.append_assoc, List.singleton_append]

theorem foldl_max_le (items : List α) (mark bound : Nat) (start : mark ≤ bound)
    (bounded : ∀ item ∈ items, key item ≤ bound) :
    items.foldl (fun mark item => max mark (key item)) mark ≤ bound := by
  induction items generalizing mark with
  | nil => exact start
  | cons item rest ih =>
      apply ih
      · exact Nat.max_le.mpr ⟨start, bounded item List.mem_cons_self⟩
      · intro later member
        exact bounded later (List.mem_cons_of_mem _ member)

theorem le_foldl_max (items : List α) (mark : Nat) :
    mark ≤ items.foldl (fun mark item => max mark (key item)) mark ∧
      ∀ item ∈ items, key item ≤ items.foldl (fun mark item => max mark (key item)) mark := by
  induction items generalizing mark with
  | nil => simp
  | cons item rest ih =>
      obtain ⟨start, later⟩ := ih (max mark (key item))
      rw [List.foldl_cons]
      constructor
      · omega
      · intro other member
        rw [List.mem_cons] at member
        rcases member with same | member
        · rw [same]
          omega
        · exact later other member

/-- A snapshot that reaches a bound and does not pass it has this bound as its mark. -/
theorem markOf_eq (snapshot : List α) (bound : Nat) (bounded : ∀ item ∈ snapshot, key item ≤ bound)
    (reached : 0 < bound → ∃ item ∈ snapshot, key item = bound) : markOf key snapshot = bound := by
  apply Nat.le_antisymm
  · exact foldl_max_le key snapshot 0 bound (Nat.zero_le _) bounded
  · rcases Nat.eq_zero_or_pos bound with zero | positive
    · rw [zero]
      exact Nat.zero_le _
    · obtain ⟨item, member, same⟩ := reached positive
      rw [← same]
      exact (le_foldl_max key snapshot 0).2 item member

/-- A snapshot followed by the stream above its mark has increasing keys. -/
theorem snapshot_stream_increasing (snapshot stream : List α)
    (first : snapshot.Pairwise fun left right => key left < key right)
    (second : stream.Pairwise fun left right => key left < key right) :
    (snapshot ++ stream.filter fun item => markOf key snapshot < key item).Pairwise
      fun left right => key left < key right := by
  rw [List.pairwise_append]
  refine ⟨first, second.filter _, ?_⟩
  intro older member newer above
  rw [List.mem_filter, decide_eq_true_eq] at above
  exact Nat.lt_of_le_of_lt ((le_foldl_max key snapshot 0).2 older member) above.2

end Library
