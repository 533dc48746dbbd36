/-
This file defines the replacement of the first occurrence of a text. A text whose first symbol stands
nowhere before is found where it begins.
-/

import OperationsConsole.Library.Splitting

namespace Library

variable {α : Type*} [DecidableEq α]

/-- The first occurrence of the old text is replaced. -/
def replaceFirst (old new text : List α) : List α :=
  match partitionAt old text with
  | some (first, rest) => first ++ new ++ rest
  | none => text

variable (sign : α) (more rest : List α)

theorem partitionAt_append (front : List α) (free : sign ∉ front) :
    partitionAt (sign :: more) (front ++ sign :: more ++ rest) = some (front, rest) := by
  induction front with
  | nil =>
      rw [List.nil_append, List.cons_append, partitionAt, if_pos]
      · rw [List.length_cons, List.drop_succ_cons, List.drop_left]
      · exact ⟨rest, rfl⟩
  | cons symbol front ih =>
      rw [List.mem_cons, not_or] at free
      rw [List.cons_append, List.cons_append, partitionAt, if_neg, ih free.2]
      · rfl
      · intro found
        exact free.1 (List.cons_prefix_cons.mp found).1

theorem replaceFirst_append (front new : List α) (free : sign ∉ front) :
    replaceFirst (sign :: more) new (front ++ sign :: more ++ rest) = front ++ new ++ rest := by
  rw [replaceFirst, partitionAt_append sign more rest front free]

end Library
