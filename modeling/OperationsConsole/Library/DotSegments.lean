/-
This file defines the removal of dot segments from the path of a URL, as RFC 3986 describes it.
A path without a dot segment stays as it is.
-/

import OperationsConsole.Library.Splitting

namespace Library

/-- The first segment of a path includes its leading slash. -/
def firstSegment : List Char → List Char
  | [] => []
  | symbol :: rest => symbol :: before (· == '/') rest

theorem firstSegment_pos (path : List Char) (present : path ≠ []) :
    0 < (firstSegment path).length := by
  cases path with
  | nil => exact absurd rfl present
  | cons symbol rest => exact Nat.succ_pos _

/-- A step drops a dot segment from the input, or it moves the first segment to the output. A double
dot also drops the last segment of the output. -/
def removeDotsFrom (output input : List Char) : List Char :=
  if input = [] then output
  else if ['.', '.', '/'] <+: input then removeDotsFrom output (input.drop 3)
  else if ['.', '/'] <+: input ∨ ['/', '.', '/'] <+: input then
    removeDotsFrom output (input.drop 2)
  else if input = ['/', '.'] then output ++ ['/']
  else if ['/', '.', '.', '/'] <+: input then
    removeDotsFrom (beforeLast (· == '/') output) (input.drop 3)
  else if input = ['/', '.', '.'] then beforeLast (· == '/') output ++ ['/']
  else if input = ['.'] ∨ input = ['.', '.'] then output
  else removeDotsFrom (output ++ firstSegment input) (input.drop (firstSegment input).length)
termination_by input.length
decreasing_by
  all_goals
    have present : input ≠ [] := by assumption
    have positive : 0 < input.length := List.length_pos_of_ne_nil present
    have segment := firstSegment_pos input present
    rw [List.length_drop]
    omega

def removeDotSegments (path : List Char) : List Char := removeDotsFrom [] path

/-- The path of some segments has a slash before each of them. -/
def pathOf (segments : List (List Char)) : List Char :=
  segments.flatMap fun segment => '/' :: segment

/-- A plain segment has no slash and no meaning of its own. -/
structure Plain (segment : List Char) : Prop where
  whole : '/' ∉ segment
  named : segment ≠ ['.'] ∧ segment ≠ ['.', '.']

/-- A path is its segments after an empty one, joined with slashes. -/
theorem pathOf_eq_intercalate (segments : List (List Char)) :
    pathOf segments = ['/'].intercalate ([] :: segments) := by
  have tail : ∀ first, first ++ pathOf segments = ['/'].intercalate (first :: segments) := by
    induction segments with
    | nil =>
        intro first
        exact (List.append_nil first).trans (List.intercalate_singleton).symm
    | cons segment rest ih =>
        intro first
        rw [List.intercalate_cons_cons, ← ih segment]
        exact List.append_assoc first ['/'] (segment ++ pathOf rest) ▸ rfl
  exact tail []

theorem firstSegment_pathOf (segment : List Char) (rest : List (List Char))
    (whole : '/' ∉ segment) : firstSegment ('/' :: (segment ++ pathOf rest)) = '/' :: segment := by
  have free : ∀ symbol ∈ segment, (symbol == '/') = false := by
    intro symbol member
    rw [beq_eq_false_iff_ne]
    exact fun same => whole (same ▸ member)
  have stops : before (· == '/') (pathOf rest) = [] := by
    cases rest with
    | nil => rfl
    | cons next others => rfl
  rw [firstSegment, before_append _ _ _ free, stops, List.append_nil]

/-- A path begins with a dot segment only if its first segment is one. -/
theorem firstSegment_dots (path : List Char) :
    (['/', '.', '/'] <+: path ∨ path = ['/', '.'] → firstSegment path = ['/', '.']) ∧
      (['/', '.', '.', '/'] <+: path ∨ path = ['/', '.', '.'] →
        firstSegment path = ['/', '.', '.']) := by
  constructor
  · rintro (⟨rest, whole⟩ | whole)
    · rw [← whole]
      rfl
    · rw [whole]
      rfl
  · rintro (⟨rest, whole⟩ | whole)
    · rw [← whole]
      rfl
    · rw [whole]
      rfl

/-- Plain segments move to the output one after the other. -/
theorem removeDotsFrom_pathOf (segments : List (List Char))
    (plain : ∀ segment ∈ segments, Plain segment) (output : List Char) :
    removeDotsFrom output (pathOf segments) = output ++ pathOf segments := by
  induction segments generalizing output with
  | nil =>
      rw [removeDotsFrom]
      exact (List.append_nil output).symm
  | cons segment rest ih =>
      obtain ⟨whole, single, double⟩ := plain segment List.mem_cons_self
      have cut : pathOf (segment :: rest) = '/' :: (segment ++ pathOf rest) := rfl
      have next := firstSegment_pathOf segment rest whole
      obtain ⟨one, two⟩ := firstSegment_dots ('/' :: (segment ++ pathOf rest))
      rw [next] at one two
      have noSingle := not_or.mp fun dot => single (List.cons.inj (one dot)).2
      have noDouble := not_or.mp fun dots => double (List.cons.inj (two dots)).2
      have dropped : ('/' :: (segment ++ pathOf rest)).drop ('/' :: segment).length =
          pathOf rest := List.drop_left
      have later := ih fun other member => plain other (List.mem_cons_of_mem segment member)
      rw [removeDotsFrom, cut, if_neg (List.cons_ne_nil _ _), if_neg (by simp),
        if_neg (by simp [noSingle.1]), if_neg noSingle.2, if_neg noDouble.1, if_neg noDouble.2,
        if_neg (by simp), next, dropped, later, List.append_assoc]
      rfl

/-- Removing the dot segments leaves a path of plain segments unchanged. -/
theorem removeDotSegments_pathOf (segments : List (List Char))
    (plain : ∀ segment ∈ segments, Plain segment) :
    removeDotSegments (pathOf segments) = pathOf segments :=
  removeDotsFrom_pathOf segments plain []

end Library
