/-
This file defines tables of routes, whose templates have fixed parts and named parameters.
Routes with templates that are pairwise apart never answer the same path, so their order in the
table does not matter.
-/

import Mathlib.Data.List.Forall2
import Mathlib.Data.List.Perm.Basic

namespace Library.Routing

section Templates

variable {ν : Type}

inductive Piece (ν : Type) where
  | fixed (text : String)
  | parameter (name : ν)

/-- A parameter takes a segment that is not empty. -/
def Piece.capture : Piece ν → List Char → Option (List (ν × List Char))
  | fixed text, segment => if segment = text.toList then some [] else none
  | parameter name, segment => if segment = [] then none else some [(name, segment)]

def capture : List (Piece ν) → List (List Char) → Option (List (ν × List Char))
  | [], [] => some []
  | part :: parts, segment :: segments => do
      let first ← part.capture segment
      let rest ← capture parts segments
      some (first ++ rest)
  | _, _ => none

/-- A newline at the end of the last segment is dropped. -/
def chomp : List (List Char) → Option (List (List Char))
  | [] => none
  | [last] => if last.getLast? = some '\n' then some [last.dropLast] else none
  | segment :: rest => (chomp rest).map (segment :: ·)

/-- The end of a pattern also stands before a newline that ends the path. -/
def captureLine (parts : List (Piece ν)) (segments : List (List Char)) :
    Option (List (ν × List Char)) :=
  (capture parts segments).orElse fun _ => (chomp segments).bind (capture parts)

def Piece.name? : Piece ν → Option ν
  | fixed _ => none
  | parameter name => some name

def Piece.fill (values : ν → List Char) : Piece ν → List Char
  | fixed text => text.toList
  | parameter name => values name

/-- Two fixed parts with different texts are apart. -/
def Piece.apart : Piece ν → Piece ν → Bool
  | fixed first, fixed second => first ≠ second
  | _, _ => false

/-- Templates are apart at some part or in their lengths. -/
def apart : List (Piece ν) → List (Piece ν) → Bool
  | [], [] => false
  | first :: firsts, second :: seconds => first.apart second || apart firsts seconds
  | _, _ => true

/-- The fixed part is the segment, up to a newline at the end. -/
def Piece.Fits : Piece ν → List Char → Prop
  | fixed text, segment => segment = text.toList ∨ segment = text.toList ++ ['\n']
  | parameter _, _ => True

/-- No fixed part has a newline. -/
def OneLine (parts : List (Piece ν)) : Prop :=
  ∀ part ∈ parts, ∀ text, part = .fixed text → '\n' ∉ text.toList

theorem Piece.fits_of_capture (part : Piece ν) (segment : List Char) (values : List (ν × List Char))
    (captured : part.capture segment = some values) : part.Fits segment := by
  cases part with
  | fixed text =>
      rw [capture, Option.ite_none_right_eq_some] at captured
      exact .inl captured.1
  | parameter name => exact trivial

theorem capture_cons_eq_some_iff (part : Piece ν) (parts : List (Piece ν)) (segment : List Char)
    (segments : List (List Char)) (values : List (ν × List Char)) :
    capture (part :: parts) (segment :: segments) = some values ↔
      ∃ first rest, part.capture segment = some first ∧ capture parts segments = some rest ∧
        values = first ++ rest := by
  simp only [capture, Option.bind_eq_bind, Option.bind_eq_some_iff, Option.some.injEq]
  constructor
  · intro found
    obtain ⟨first, head, rest, tail, same⟩ := found
    exact ⟨first, rest, head, tail, same.symm⟩
  · intro found
    obtain ⟨first, rest, head, tail, same⟩ := found
    exact ⟨first, head, rest, tail, same.symm⟩

theorem fits_of_capture (parts : List (Piece ν)) (segments : List (List Char))
    (values : List (ν × List Char)) (captured : capture parts segments = some values) :
    List.Forall₂ Piece.Fits parts segments := by
  induction parts generalizing segments values with
  | nil =>
      cases segments with
      | nil => exact .nil
      | cons segment rest => cases captured
  | cons part parts ih =>
      cases segments with
      | nil => cases captured
      | cons segment rest =>
          obtain ⟨first, later, head, tail, _⟩ :=
            (capture_cons_eq_some_iff part parts segment rest values).mp captured
          exact .cons (part.fits_of_capture segment first head) (ih rest later tail)

/-- A newline at the end of the last segment was there before. -/
theorem fits_of_chomp (parts : List (Piece ν)) (segments shorter : List (List Char))
    (values : List (ν × List Char)) (chomped : chomp segments = some shorter)
    (captured : capture parts shorter = some values) : List.Forall₂ Piece.Fits parts segments := by
  induction parts generalizing segments shorter values with
  | nil =>
      cases shorter with
      | cons segment rest => cases captured
      | nil =>
          cases segments with
          | nil => cases chomped
          | cons segment rest =>
              cases rest with
              | nil => simp [chomp] at chomped
              | cons next others => simp [chomp] at chomped
  | cons part parts ih =>
      cases shorter with
      | nil => cases captured
      | cons kept others =>
          obtain ⟨first, later, head, tail, _⟩ :=
            (capture_cons_eq_some_iff part parts kept others values).mp captured
          cases segments with
          | nil => cases chomped
          | cons segment rest =>
              cases rest with
              | nil =>
                  rw [chomp, Option.ite_none_right_eq_some, Option.some.injEq,
                    List.cons.injEq] at chomped
                  obtain ⟨ends, same, none_left⟩ := chomped
                  rw [← none_left] at tail
                  refine .cons ?_ (fits_of_capture parts [] later tail)
                  cases part with
                  | parameter name => exact trivial
                  | fixed text =>
                      rw [Piece.capture, Option.ite_none_right_eq_some] at head
                      right
                      rw [← head.1, ← same]
                      exact (List.dropLast_append_getLast? '\n' ends).symm
              | cons next others' =>
                  rw [chomp, Option.map_eq_some_iff] at chomped
                  · obtain ⟨inner, below, same⟩ := chomped
                    rw [List.cons.injEq] at same
                    rw [same.1]
                    rw [← same.2] at tail
                    exact .cons (part.fits_of_capture kept first head) (ih _ inner later below tail)
                  · intro empty
                    cases empty

theorem fits_of_captureLine (parts : List (Piece ν)) (segments : List (List Char))
    (values : List (ν × List Char)) (captured : captureLine parts segments = some values) :
    List.Forall₂ Piece.Fits parts segments := by
  unfold captureLine at captured
  cases whole : capture parts segments with
  | some found => exact fits_of_capture parts segments found whole
  | none =>
      rw [whole, Option.orElse_none] at captured
      obtain ⟨shorter, chomped, kept⟩ := Option.bind_eq_some_iff.mp captured
      exact fits_of_chomp parts segments shorter values chomped kept

theorem Piece.apart_eq_false (first second : Piece ν) (segment : List Char)
    (line : ∀ text, first = .fixed text → '\n' ∉ text.toList)
    (otherLine : ∀ text, second = .fixed text → '\n' ∉ text.toList)
    (fits : first.Fits segment) (otherFits : second.Fits segment) :
    first.apart second = false := by
  cases first with
  | parameter name => rfl
  | fixed text =>
      cases second with
      | parameter name => rfl
      | fixed other =>
          have free := line text rfl
          have otherFree := otherLine other rfl
          rw [apart, decide_eq_false_iff_not, not_not, ← String.toList_inj]
          rcases fits with same | same <;> rcases otherFits with again | again
          · exact same.symm.trans again
          · rw [← same, again] at free
            exact absurd (List.mem_append_right other.toList List.mem_cons_self) free
          · rw [← again, same] at otherFree
            exact absurd (List.mem_append_right text.toList List.mem_cons_self) otherFree
          · exact List.append_cancel_right (same.symm.trans again)

/-- No path fits two templates that are apart. -/
theorem apart_eq_false (firsts seconds : List (Piece ν)) (segments : List (List Char))
    (line : OneLine firsts) (otherLine : OneLine seconds)
    (fits : List.Forall₂ Piece.Fits firsts segments)
    (otherFits : List.Forall₂ Piece.Fits seconds segments) : apart firsts seconds = false := by
  induction fits generalizing seconds with
  | nil =>
      cases otherFits
      rfl
  | cons head tail ih =>
      cases otherFits with
      | cons otherHead otherTail =>
          rw [apart, Bool.or_eq_false_iff]
          constructor
          · exact Piece.apart_eq_false _ _ _ (line _ List.mem_cons_self)
              (otherLine _ List.mem_cons_self) head otherHead
          · exact ih _ (fun part member => line part (List.mem_cons_of_mem _ member))
              (fun part member => otherLine part (List.mem_cons_of_mem _ member)) otherTail

end Templates

section Values

variable {ν : Type} [DecidableEq ν]

/-- This is the captured value of a parameter. -/
def valueOf (values : List (ν × List Char)) (name : ν) : List Char := (values.lookup name).getD []

/-- A captured path is its template with the values. -/
theorem fill_of_capture (parts : List (Piece ν)) (segments : List (List Char))
    (values : List (ν × List Char)) (captured : capture parts segments = some values)
    (distinct : (parts.filterMap Piece.name?).Nodup) :
    parts.map (Piece.fill (valueOf values)) = segments := by
  induction parts generalizing segments values with
  | nil =>
      cases segments with
      | nil => rfl
      | cons segment rest => cases captured
  | cons part parts ih =>
      cases segments with
      | nil => cases captured
      | cons segment rest =>
          obtain ⟨first, later, head, tail, same⟩ :=
            (capture_cons_eq_some_iff part parts segment rest values).mp captured
          cases part with
          | fixed text =>
              rw [Piece.capture, Option.ite_none_right_eq_some] at head
              rw [List.map_cons, same, ← Option.some.inj head.2, List.nil_append,
                ih rest later tail distinct, head.1]
              rfl
          | parameter name =>
              rw [Piece.capture, Option.ite_none_left_eq_some] at head
              obtain ⟨new, rest_distinct⟩ := List.nodup_cons.mp distinct
              have others : parts.map (Piece.fill (valueOf values)) =
                  parts.map (Piece.fill (valueOf later)) := by
                apply List.map_congr_left
                intro other member
                cases other with
                | fixed text => rfl
                | parameter another =>
                    have differs : another ≠ name := fun equal =>
                      new (equal ▸ List.mem_filterMap.mpr ⟨_, member, rfl⟩)
                    rw [Piece.fill, Piece.fill, valueOf, valueOf, same, ← Option.some.inj head.2,
                      List.singleton_append, List.lookup_cons, beq_eq_false_iff_ne.mpr differs]
              rw [List.map_cons, others, ih rest later tail rest_distinct]
              congr 1
              rw [Piece.fill, valueOf, same, ← Option.some.inj head.2, List.singleton_append,
                List.lookup_cons_self, Option.getD_some]

end Values

section Tables

variable {ρ α : Type} (answers : ρ → Option α)

/-- Two routes of a table never answer together. -/
def Exclusive (table : List ρ) : Prop :=
  table.Pairwise fun first second => answers first = none ∨ answers second = none

/-- The first answer is the only one, wherever its route stands. -/
theorem findSome?_eq_some_iff (table : List ρ) (exclusive : Exclusive answers table) (answer : α) :
    table.findSome? answers = some answer ↔ ∃ route ∈ table, answers route = some answer := by
  induction table with
  | nil => simp
  | cons route rest ih =>
      obtain ⟨head, tail⟩ := List.pairwise_cons.mp exclusive
      rw [List.findSome?_cons]
      cases found : answers route with
      | none => simp [found, ih tail]
      | some first =>
          have silent : ∀ other ∈ rest, answers other = none := fun other member =>
            (head other member).resolve_left (by simp [found])
          simp only [List.mem_cons, exists_eq_or_imp, found]
          constructor
          · exact .inl
          · intro either
            rcases either with same | later
            · exact same
            · obtain ⟨other, member, same⟩ := later
              rw [silent other member] at same
              cases same

/-- The order of the routes does not matter. -/
theorem findSome?_perm (table other : List ρ) (reordered : other.Perm table)
    (exclusive : Exclusive answers table) :
    other.findSome? answers = table.findSome? answers := by
  have kept : Exclusive answers other :=
    reordered.symm.pairwise exclusive fun either => either.symm
  apply Option.ext
  intro answer
  rw [findSome?_eq_some_iff answers other kept, findSome?_eq_some_iff answers table exclusive]
  simp only [reordered.mem_iff]

end Tables

end Library.Routing
