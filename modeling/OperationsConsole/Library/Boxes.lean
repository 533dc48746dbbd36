/-
This file places boxes on a drawing. Boxes keep apart beside or above each other,
and a column of boxes of one height is spread evenly between a top and a bottom.
-/

import Mathlib.Tactic.FieldSimp
import Mathlib.Tactic.Linarith

namespace Library

/-- A box has its left upper corner, its width, and its height. The coordinates grow downwards. -/
structure Box (K : Type*) where
  x : K
  y : K
  w : K
  h : K
  deriving DecidableEq

namespace Box

variable {K : Type*} [Field K]

def right (box : Box K) : K := box.x + box.w

def bottom (box : Box K) : K := box.y + box.h

/-- A line meets a box at half its height. -/
def middle (box : Box K) : K := box.y + box.h / 2

variable [LinearOrder K]

/-- A box covers its border also. -/
def Covers (box : Box K) (across down : K) : Prop :=
  box.x ≤ across ∧ across ≤ box.right ∧ box.y ≤ down ∧ down ≤ box.bottom

/-- Two boxes that do not overlap have no point in common. -/
def Apart (first second : Box K) : Prop :=
  ∀ across down, first.Covers across down → ¬second.Covers across down

/-- A box lies within a drawing. -/
def Inside (box : Box K) (width height : K) : Prop :=
  0 ≤ box.x ∧ box.right ≤ width ∧ 0 ≤ box.y ∧ box.bottom ≤ height

theorem Apart.symm {first second : Box K} (apart : first.Apart second) : second.Apart first :=
  fun across down covered other => apart across down other covered

theorem apart_of_beside (first second : Box K) (beside : first.right < second.x) :
    first.Apart second := by
  intro across down covered other
  exact absurd (other.1.trans covered.2.1) (not_le.mpr beside)

theorem apart_of_above (first second : Box K) (above : first.bottom < second.y) :
    first.Apart second := by
  intro across down covered other
  exact absurd (other.2.2.1.trans covered.2.2.2) (not_le.mpr above)

end Box

section Spreading

variable {K : Type*} [Field K] [LinearOrder K] [IsStrictOrderedRing K]

/-- The middle of a place, where the height between a top and a bottom has equal places. -/
def spreadMiddle (top bottom : K) (count index : ℕ) : K :=
  top + (bottom - top) / count * (index + 1 / 2)

/-- An earlier place lies above a later one by at least one place. -/
theorem spreadMiddle_step (top bottom : K) (count first second : ℕ) (ordered : top ≤ bottom)
    (earlier : first < second) :
    spreadMiddle top bottom count first + (bottom - top) / count ≤
      spreadMiddle top bottom count second := by
  have place : 0 ≤ (bottom - top) / count := div_nonneg (sub_nonneg.mpr ordered) (Nat.cast_nonneg _)
  have after : (first : K) + 1 ≤ second := by exact_mod_cast earlier
  have grown := mul_le_mul_of_nonneg_left after place
  unfold spreadMiddle
  linarith only [grown]

/-- The first place begins at the top. -/
theorem spreadMiddle_top (top bottom : K) (count index : ℕ) (ordered : top ≤ bottom) :
    top ≤ spreadMiddle top bottom count index - (bottom - top) / count / 2 := by
  have place : 0 ≤ (bottom - top) / count := div_nonneg (sub_nonneg.mpr ordered) (Nat.cast_nonneg _)
  have first : (0 : K) ≤ index := Nat.cast_nonneg index
  have grown := mul_nonneg place first
  unfold spreadMiddle
  linarith only [grown]

/-- The last place ends at the bottom. -/
theorem spreadMiddle_bottom (top bottom : K) (count index : ℕ) (ordered : top ≤ bottom)
    (inside : index < count) :
    spreadMiddle top bottom count index + (bottom - top) / count / 2 ≤ bottom := by
  have place : 0 ≤ (bottom - top) / count := div_nonneg (sub_nonneg.mpr ordered) (Nat.cast_nonneg _)
  have after : (index : K) + 1 ≤ count := by exact_mod_cast inside
  have grown := mul_le_mul_of_nonneg_left after place
  have positive : (count : K) ≠ 0 := by
    have above : 0 < count := by omega
    exact_mod_cast above.ne'
  have all : (bottom - top) / count * count = bottom - top := div_mul_cancel₀ _ positive
  unfold spreadMiddle
  linarith only [grown, all]

end Spreading

end Library
