/-
This file cuts a text at its first or last stop and at the first occurrence of a separator.
The parts of a cut hold no stop, and together they are the text.
-/

import Mathlib.Data.List.Infix
import Mathlib.Data.List.TakeWhile

namespace Library

variable {α : Type*}

/-- The part of a text before its first stop. -/
def before (stop : α → Bool) (text : List α) : List α := text.takeWhile fun symbol => !stop symbol

/-- A text from its first stop on. -/
def fromFirst (stop : α → Bool) (text : List α) : List α :=
  text.dropWhile fun symbol => !stop symbol

/-- The part of a text after its first stop, which is empty without a stop. -/
def afterFirst (stop : α → Bool) (text : List α) : List α := (fromFirst stop text).tail

/-- The part of a text after its last stop, which is the text without a stop. -/
def afterLast (stop : α → Bool) (text : List α) : List α := (before stop text.reverse).reverse

/-- The part of a text before its last stop, which is empty without a stop. -/
def beforeLast (stop : α → Bool) (text : List α) : List α :=
  (afterFirst stop text.reverse).reverse

/-- The parts of a text around the first occurrence of a separator. -/
def partitionAt [DecidableEq α] (separator : List α) : List α → Option (List α × List α)
  | [] => if separator = [] then some ([], []) else none
  | symbol :: rest =>
      if separator <+: symbol :: rest then
        some ([], (symbol :: rest).drop separator.length)
      else (partitionAt separator rest).map fun parts => (symbol :: parts.1, parts.2)

section Stops

variable (stop : α → Bool) (text : List α)

theorem before_append_fromFirst : before stop text ++ fromFirst stop text = text :=
  List.takeWhile_append_dropWhile

theorem before_free (symbol : α) (member : symbol ∈ before stop text) : stop symbol = false := by
  simpa using List.mem_takeWhile_imp member

theorem before_subset : before stop text ⊆ text :=
  (List.takeWhile_prefix _).subset

theorem fromFirst_subset : fromFirst stop text ⊆ text :=
  (List.dropWhile_suffix _).subset

theorem afterFirst_subset : afterFirst stop text ⊆ text :=
  List.Subset.trans (List.tail_subset _) (fromFirst_subset stop text)

theorem afterLast_free (symbol : α) (member : symbol ∈ afterLast stop text) :
    stop symbol = false := by
  rw [afterLast, List.mem_reverse] at member
  exact before_free stop text.reverse symbol member

theorem afterLast_subset : afterLast stop text ⊆ text := by
  intro symbol member
  rw [afterLast, List.mem_reverse] at member
  exact List.mem_reverse.mp (before_subset stop _ member)

/-- A text without a stop is its own part before the first stop. -/
theorem before_of_free (free : ∀ symbol ∈ text, stop symbol = false) : before stop text = text := by
  rw [before, List.takeWhile_eq_self_iff]
  intro symbol member
  simp [free symbol member]

theorem fromFirst_of_free (free : ∀ symbol ∈ text, stop symbol = false) :
    fromFirst stop text = [] := by
  rw [fromFirst, List.dropWhile_eq_nil_iff]
  intro symbol member
  simp [free symbol member]

/-- The first stop of a text that begins without a stop is in the rest. -/
theorem before_append (rest : List α) (free : ∀ symbol ∈ text, stop symbol = false) :
    before stop (text ++ rest) = text ++ before stop rest := by
  unfold before
  apply List.takeWhile_append_of_pos
  intro symbol member
  simp [free symbol member]

theorem fromFirst_append (rest : List α) (free : ∀ symbol ∈ text, stop symbol = false) :
    fromFirst stop (text ++ rest) = fromFirst stop rest := by
  unfold fromFirst
  apply List.dropWhile_append_of_pos
  intro symbol member
  simp [free symbol member]

/-- A text with a stop ends its first part in the text itself. -/
theorem before_append_of_stop (rest : List α) (held : ∃ symbol ∈ text, stop symbol = true) :
    before stop (text ++ rest) = before stop text ∧
      fromFirst stop (text ++ rest) = fromFirst stop text ++ rest := by
  induction text with
  | nil => simp at held
  | cons symbol tail ih =>
      unfold before fromFirst at ih ⊢
      by_cases stops : stop symbol = true
      · simp [stops]
      · have later : ∃ symbol ∈ tail, stop symbol = true := by
          obtain ⟨other, member, found⟩ := held
          rcases List.mem_cons.mp member with same | inside
          · exact absurd (same ▸ found) stops
          · exact ⟨other, inside, found⟩
        simp [stops, ih later]

/-- The text from its first stop on is empty, or it begins with a stop. -/
theorem fromFirst_cases : fromFirst stop text = [] ∨
    ∃ symbol rest, fromFirst stop text = symbol :: rest ∧ stop symbol = true := by
  cases found : fromFirst stop text with
  | nil => exact .inl rfl
  | cons symbol rest =>
      refine .inr ⟨symbol, rest, rfl, ?_⟩
      have head := List.head?_dropWhile_not (fun symbol => !stop symbol) text
      rw [← fromFirst, found] at head
      simpa using head

/-- Two cuts, one after the other, end at the first stop of either. -/
theorem before_before (other : α → Bool) :
    before stop (before other text) = before (fun symbol => other symbol || stop symbol) text := by
  unfold before
  rw [List.takeWhile_takeWhile]
  congr 1
  funext symbol
  cases stops : stop symbol <;> cases others : other symbol <;> simp [stops, others]

/-- The first stop stands after the part before it. -/
theorem drop_before : text.drop (before stop text).length = fromFirst stop text := by
  have cut := congrArg (List.drop (before stop text).length) (before_append_fromFirst stop text)
  rw [List.drop_left] at cut
  exact cut.symm

end Stops

section Separators

variable [DecidableEq α] (separator : List α)

/-- The parts around a separator restore the text. -/
theorem partitionAt_text (text first rest : List α)
    (found : partitionAt separator text = some (first, rest)) :
    text = first ++ separator ++ rest := by
  induction text generalizing first rest with
  | nil =>
      unfold partitionAt at found
      split at found
      · rename_i empty
        simp only [Option.some.injEq, Prod.mk.injEq] at found
        rw [← found.1, ← found.2, empty]
        rfl
      · simp at found
  | cons symbol tail ih =>
      unfold partitionAt at found
      split at found
      · rename_i here
        simp only [Option.some.injEq, Prod.mk.injEq] at found
        rw [← found.1, ← found.2, List.nil_append]
        exact List.prefix_append_drop here
      · rw [Option.map_eq_some_iff] at found
        obtain ⟨⟨front, back⟩, later, same⟩ := found
        simp only [Prod.mk.injEq] at same
        rw [← same.1, ← same.2, List.cons_append, List.cons_append, ← ih front back later]

/-- No separator begins before the first one. -/
theorem partitionAt_first (text first rest : List α)
    (found : partitionAt separator text = some (first, rest)) (index : ℕ)
    (early : index < first.length) : ¬ separator <+: text.drop index := by
  induction text generalizing first rest index with
  | nil =>
      unfold partitionAt at found
      split at found
      · simp only [Option.some.injEq, Prod.mk.injEq] at found
        simp [← found.1] at early
      · simp at found
  | cons symbol tail ih =>
      unfold partitionAt at found
      split at found
      · simp only [Option.some.injEq, Prod.mk.injEq] at found
        simp [← found.1] at early
      · rename_i absent
        rw [Option.map_eq_some_iff] at found
        obtain ⟨⟨front, back⟩, later, same⟩ := found
        simp only [Prod.mk.injEq] at same
        cases index with
        | zero => simpa using absent
        | succ index =>
            rw [List.drop_succ_cons]
            apply ih front back later index
            rw [← same.1, List.length_cons] at early
            omega

/-- A text is partitioned exactly when it holds the separator. -/
theorem partitionAt_eq_none_iff (text : List α) :
    partitionAt separator text = none ↔ ¬ separator <:+: text := by
  induction text with
  | nil =>
      unfold partitionAt
      split
      · rename_i empty
        simp [empty]
      · rename_i filled
        simp [filled]
  | cons symbol tail ih =>
      unfold partitionAt
      rw [List.infix_cons_iff]
      split
      · rename_i here
        simp [here]
      · rename_i absent
        rw [Option.map_eq_none_iff, ih]
        simp [absent]

end Separators

/-- A word without a separator is found on one of its sides. -/
theorem infix_append_cons_iff (word left right : List α) (separator : α)
    (free : separator ∉ word) :
    word <:+: left ++ separator :: right ↔ word <:+: left ∨ word <:+: right := by
  constructor
  · rintro ⟨first, last, same⟩
    rw [List.append_assoc, List.append_eq_append_iff] at same
    rcases same with ⟨middle, rfl, same⟩ | ⟨middle, rfl, same⟩
    · rw [List.append_eq_append_iff] at same
      rcases same with ⟨rest, rfl, _⟩ | ⟨rest, rfl, same⟩
      · exact .inl ⟨first, rest, by rw [List.append_assoc]⟩
      · cases rest with
        | nil => exact .inl ⟨first, [], by simp⟩
        | cons head rest =>
            have own : head = separator := (List.cons.inj same).1.symm
            exact absurd (by simp [own]) free
    · cases middle with
      | nil =>
          cases word with
          | nil => exact .inl (List.nil_infix)
          | cons head word =>
              have own : head = separator := (List.cons.inj same).1.symm
              exact absurd (by simp [own]) free
      | cons head middle =>
          exact .inr ⟨middle, last, by rw [List.append_assoc]; exact (List.cons.inj same).2.symm⟩
  · rintro (found | found)
    · exact found.trans List.infix_append_left
    · exact (List.infix_cons found).trans List.infix_append_right

end Library
