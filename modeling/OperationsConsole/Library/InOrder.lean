/-
This file studies stores that take stamped inputs, which may arrive out of order.
A store that remembers its last input ignores late inputs only if none arrives.
-/

import OperationsConsole.Library.Loop
import Mathlib.Order.Lattice

namespace Library

variable {σ α τ : Type*} [LinearOrder τ] (time : α → τ)

/-- An input is late after an input with a newer stamp. The earlier inputs are listed newest
first. -/
def Late (input : α) (earlier : List α) : Prop := ∃ older ∈ earlier, time input < time older

/-- Inputs in order are listed newest first, and none of them is late. -/
def InOrder (inputs : List α) : Prop := inputs.Pairwise fun newer older => time older ≤ time newer

/-- The inputs that are not late when they arrive. -/
def punctual : List α → List α
  | [] => []
  | input :: earlier =>
      if ∀ older ∈ earlier, time older ≤ time input then input :: punctual earlier
      else punctual earlier

theorem not_late_iff (input : α) (earlier : List α) :
    ¬Late time input earlier ↔ ∀ older ∈ earlier, time older ≤ time input := by
  simp [Late]

/-- Inputs in order are all punctual. -/
theorem punctual_of_inOrder (inputs : List α) (ordered : InOrder time inputs) :
    punctual time inputs = inputs := by
  induction inputs with
  | nil => rfl
  | cons input earlier ih =>
      have first := List.pairwise_cons.mp ordered
      rw [punctual, if_pos first.1, ih first.2]

variable (update : σ → α → σ) (initial : σ)

/-- After each input the store is the one that took the punctual inputs only, and a late input
changes nothing. -/
structure NewestWins (inputs : List α) : Prop where
  shows : ∀ part, part <:+ inputs →
    after update initial part = after update initial (punctual time part)
  ignores : ∀ input part, input :: part <:+ inputs → Late time input part →
    after update initial (input :: part) = after update initial part

theorem NewestWins.suffix (inputs part : List α) (newest : NewestWins time update initial inputs)
    (suffix : part <:+ inputs) : NewestWins time update initial part where
  shows inner inside := newest.shows inner (inside.trans suffix)
  ignores input inner inside := newest.ignores input inner (inside.trans suffix)

/-- Every store shows the newest input when its inputs arrive in order. -/
theorem newestWins_of_inOrder (inputs : List α) (ordered : InOrder time inputs) :
    NewestWins time update initial inputs where
  shows part suffix := by
    rw [punctual_of_inOrder time part (ordered.sublist suffix.sublist)]
  ignores input part suffix late := by
    have first := List.pairwise_cons.mp (ordered.sublist suffix.sublist)
    exact absurd late ((not_late_iff time input part).mpr first.1)

/-- A store that remembers its last input shows the newest one only if the inputs are in order. -/
theorem newestWins_iff (last : σ → Option α)
    (remembers : ∀ state input, last (update state input) = some input) (inputs : List α) :
    NewestWins time update initial inputs ↔ InOrder time inputs := by
  constructor
  · intro newest
    induction inputs with
    | nil => exact List.Pairwise.nil
    | cons input earlier ih =>
        have ordered := ih (newest.suffix _ _ _ _ _ (List.suffix_cons input earlier))
        apply List.pairwise_cons.mpr
        refine ⟨?_, ordered⟩
        rw [← not_late_iff]
        intro late
        have unchanged := newest.ignores input earlier (List.suffix_refl _) late
        obtain ⟨older, member, before⟩ := late
        cases earlier with
        | nil => exact absurd member List.not_mem_nil
        | cons previous rest =>
            have remembered := congrArg last unchanged
            rw [after_cons, remembers, after_cons, remembers, Option.some.injEq] at remembered
            rw [remembered] at before
            rcases List.mem_cons.mp member with equal | inside
            · rw [equal] at before
              exact lt_irrefl _ before
            · exact absurd before ((List.pairwise_cons.mp ordered).1 older inside).not_gt
  · exact newestWins_of_inOrder time update initial inputs

end Library
