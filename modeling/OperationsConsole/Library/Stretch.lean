/-
This file studies a timer that remembers when the newest stretch of held samples began.
The timer skips a group without samples, while an observer of the groups sees an interruption.
-/

import OperationsConsole.Library.Stopwatch

namespace Library

variable {τ : Type*}

/-- The newest stretch of held samples lists its instants, the newest first. -/
def stretch : List (Sample τ) → List τ
  | .read time true :: earlier => time :: stretch earlier
  | _ => []

/-- The timer keeps its start while the samples hold. -/
def startTimer (since : Option τ) : Sample τ → Option τ
  | .lost => none
  | .read time holds => if holds then some (since.getD time) else none

@[simp] theorem stretch_held (time : τ) (earlier : List (Sample τ)) :
    stretch (.read time true :: earlier) = time :: stretch earlier := rfl

/-- The timer remembers the first instant of the stretch. -/
theorem after_startTimer (samples : List (Sample τ)) :
    after startTimer none samples = (stretch samples).getLast? := by
  induction samples with
  | nil => rfl
  | cons sample earlier ih =>
      rw [after_cons, ih]
      cases sample with
      | lost => rfl
      | read time holds =>
          cases holds with
          | false => rfl
          | true =>
              rw [stretch_held, List.getLast?_cons]
              rfl

/-- A group without samples loses the signal. -/
def interrupted (groups : List (List (Sample τ))) : List (Sample τ) :=
  groups.flatMap fun group => if group.isEmpty then [.lost] else group

end Library
