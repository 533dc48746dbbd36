/-
This file defines the arithmetic of binary floating-point numbers, for any rounding of the exact
results. A rounding may go out of range.
-/

import Mathlib.Order.WithBot
import Mathlib.Tactic.Linarith
import OperationsConsole.Library.Json

namespace Library

namespace Double

/-- A number that is no number compares with nothing. -/
def lt : Double → Double → Bool
  | finite first, finite second => first < second
  | finite _, infinite negative => !negative
  | infinite negative, finite _ => negative
  | infinite first, infinite second => first && !second
  | _, _ => false

def le : Double → Double → Bool
  | nan, _ => false
  | _, nan => false
  | first, second => first.lt second || first = second

/-- The numbers stand on a line with two ends. -/
def place : Double → WithBot (WithTop ℚ)
  | finite value => ((value : WithTop ℚ) : WithBot (WithTop ℚ))
  | infinite true => ⊥
  | infinite false => ((⊤ : WithTop ℚ) : WithBot (WithTop ℚ))
  | nan => ⊥

theorem place_lt_top (value : ℚ) : ((value : WithTop ℚ) : WithBot (WithTop ℚ)) < ⊤ :=
  WithBot.coe_lt_coe.mpr (WithTop.coe_lt_top value)

/-- Numbers compare as their places do. -/
theorem lt_iff (first second : Double) :
    first.lt second = true ↔ first ≠ nan ∧ second ≠ nan ∧ first.place < second.place := by
  rcases first with one | (_ | _) | _ <;> rcases second with two | (_ | _) | _ <;>
    simp [lt, place, place_lt_top]

theorem le_iff (first second : Double) :
    first.le second = true ↔ first ≠ nan ∧ second ≠ nan ∧ first.place ≤ second.place := by
  rcases first with one | (_ | _) | _ <;> rcases second with two | (_ | _) | _ <;>
    simp [le, lt, place, place_lt_top, le_iff_lt_or_eq]

/-- A place has one number. -/
theorem eq_of_place (first second : Double) (one : first ≠ nan) (two : second ≠ nan)
    (same : first.place = second.place) : first = second := by
  rcases first with value | (_ | _) | _ <;> rcases second with other | (_ | _) | _ <;>
    simp_all [place, (place_lt_top _).ne, (place_lt_top _).ne']

def neg : Double → Double
  | finite value => finite (-value)
  | infinite negative => infinite !negative
  | nan => nan

section Arithmetic

variable (nearest : ℚ → Double)

def add : Double → Double → Double
  | finite first, finite second => nearest (first + second)
  | infinite first, infinite second => if first = second then infinite first else nan
  | infinite negative, finite _ => infinite negative
  | finite _, infinite negative => infinite negative
  | _, _ => nan

def sub (first second : Double) : Double := add nearest first second.neg

def mul : Double → Double → Double
  | finite first, finite second => nearest (first * second)
  | infinite first, infinite second => infinite (first ^^ second)
  | infinite negative, finite value => if value = 0 then nan else infinite (negative ^^ value < 0)
  | finite value, infinite negative => if value = 0 then nan else infinite (negative ^^ value < 0)
  | _, _ => nan

/-- A sum that is in range has terms in range. -/
theorem isFinite_of_add (first second : Double) (finite : (add nearest first second).isFinite = true) :
    first.isFinite = true := by
  cases first with
  | finite value => rfl
  | infinite negative =>
      refine absurd finite ?_
      cases second with
      | finite value => exact Bool.false_ne_true
      | infinite other => by_cases same : negative = other <;> simp [add, same, isFinite]
      | nan => exact Bool.false_ne_true
  | nan =>
      refine absurd finite ?_
      cases second <;> exact Bool.false_ne_true

/-- A sum in range is the rounding of some number. -/
theorem rounded_of_add (first second : Double) (value : ℚ)
    (finite : add nearest first second = .finite value) :
    ∃ exact, nearest exact = .finite value := by
  rcases first with one | negative | _ <;> rcases second with two | other | _
  case finite.finite => exact ⟨one + two, finite⟩
  case infinite.infinite =>
    unfold add at finite
    by_cases same : negative = other <;> simp [same] at finite
  all_goals cases finite

/-- The language raises an exception for a division by zero. -/
def div (first second : Double) : Except Raised Double :=
  match first, second with
  | _, finite 0 => .error .zeroDivisionError
  | finite first, finite second => .ok (nearest (first / second))
  | infinite negative, finite value => .ok (infinite (negative ^^ value < 0))
  | finite _, infinite _ => .ok (finite 0)
  | _, _ => .ok nan

theorem finite_div (first second : ℚ) (filled : second ≠ 0) :
    (finite first).div nearest (finite second) = .ok (nearest (first / second)) := by
  unfold div
  split
  · rename_i zero
    exact absurd (finite.inj zero) filled
  · rename_i one two
    rw [finite.inj one, finite.inj two]
  · rename_i one two
    cases one
  · rename_i one two
    cases two
  · rename_i other _ _
    exact absurd rfl (other first second rfl)

/-- A division by another number than zero raises nothing. -/
theorem returns_div (first : Double) (second : ℚ) (filled : second ≠ 0) :
    Returns (first.div nearest (finite second)) := by
  unfold div
  split
  · rename_i zero
    exact absurd (finite.inj zero) filled
  · exact Returns.ok _
  · exact Returns.ok _
  · exact Returns.ok _
  · exact Returns.ok _

end Arithmetic

end Double

end Library
