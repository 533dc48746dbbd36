/-
This file studies the timers of a page. A page keeps the handle of each timer in a slot, and it clears
the timer through the handle. A timer whose handle is lost would run on, and it could not be stopped.
-/

import Mathlib.Logic.Function.Basic
import OperationsConsole.Library.Dict

namespace Library

/-- A timer belongs to a slot, and it may fire once it is due. -/
structure Timer (σ : Type) where
  slot : σ
  due : ℕ

/-- The platform numbers the timers, and the page holds a number for each slot. -/
structure Slots (σ : Type) where
  fresh : ℕ := 1
  live : Dict ℕ (Timer σ) := .empty
  handle : σ → Option ℕ := fun _ => none

namespace Slots

variable {σ : Type} [DecidableEq σ]

section Operations

variable (slots : Slots σ) (slot : σ)

/-- A new timer is started, and its handle is kept. -/
def arm (due : ℕ) : Slots σ where
  fresh := slots.fresh + 1
  live := slots.live.set slots.fresh ⟨slot, due⟩
  handle := Function.update slots.handle slot (some slots.fresh)

/-- The timer of the handle is cleared, if there is a handle. -/
def clear : Slots σ where
  fresh := slots.fresh
  live := match slots.handle slot with
    | some id => slots.live.erase id
    | none => slots.live
  handle := Function.update slots.handle slot none

/-- The timer of a repeating callback stays. -/
def again (id due : ℕ) : Slots σ := { slots with live := slots.live.set id ⟨slot, due⟩ }

omit [DecidableEq σ] in
/-- The timer of another callback is gone when it runs. -/
def expire (id : ℕ) : Slots σ := { slots with live := slots.live.erase id }

/-- The callback forgets its handle. -/
def forget : Slots σ := { slots with handle := Function.update slots.handle slot none }

theorem handle_arm (due : ℕ) (other : σ) :
    (slots.arm slot due).handle other = if other = slot then some slots.fresh else slots.handle other :=
  Function.update_apply ..

theorem handle_clear (other : σ) :
    (slots.clear slot).handle other = if other = slot then none else slots.handle other :=
  Function.update_apply ..

/-- A timer that is gone and whose handle is forgotten is as good as cleared. -/
theorem expire_forget (id : ℕ) (handle : slots.handle slot = some id) :
    (slots.expire id).forget slot = slots.clear slot := by
  unfold clear expire forget
  rw [handle]

end Operations

/-- The page holds the handle of every live timer. A handle is that of a live timer, unless its slot
keeps the handle of a timer that has fired. -/
structure Sound (stale : σ → Prop) (slots : Slots σ) : Prop where
  held : ∀ id timer, slots.live.get? id = some timer → slots.handle timer.slot = some id
  below : ∀ slot id, slots.handle slot = some id → id < slots.fresh
  apart : ∀ first second id, slots.handle first = some id → slots.handle second = some id →
    first = second
  running : ∀ slot, ¬stale slot → ∀ id, slots.handle slot = some id →
    ∃ due, slots.live.get? id = some ⟨slot, due⟩

variable {stale : σ → Prop} {slots : Slots σ}

omit [DecidableEq σ] in
theorem sound_start : Sound stale ({} : Slots σ) where
  held := fun _ _ found => nomatch found
  below := fun _ _ found => nomatch found
  apart := fun _ _ _ found => nomatch found
  running := fun _ _ _ found => nomatch found

variable (sound : Sound stale slots)

include sound

omit [DecidableEq σ] in
/-- No two live timers belong to one slot. -/
theorem Sound.single (first second : ℕ) (one two : Timer σ) (same : one.slot = two.slot)
    (found : slots.live.get? first = some one) (other : slots.live.get? second = some two) :
    first = second := by
  have held := sound.held first one found
  rw [same, sound.held second two other] at held
  exact (Option.some.inj held).symm

omit [DecidableEq σ] in
/-- Without handles there is no timer. -/
theorem Sound.live_empty (empty : ∀ slot, slots.handle slot = none) : slots.live = .empty := by
  apply Dict.eq_empty_of_get?
  intro id
  cases found : slots.live.get? id with
  | none => rfl
  | some timer => exact absurd ((sound.held id timer found).symm.trans (empty timer.slot)) (by simp)

theorem Sound.arm (slot : σ) (due : ℕ) (empty : slots.handle slot = none) :
    Sound stale (slots.arm slot due) where
  held := by
    intro id timer found
    rw [handle_arm]
    rcases Dict.get?_of_set _ _ _ _ _ found with ⟨rfl, rfl⟩ | ⟨_, old⟩
    · exact if_pos rfl
    · have held := sound.held id timer old
      rw [if_neg, held]
      intro same
      rw [same, empty] at held
      exact nomatch held
  below := by
    intro other id found
    rw [handle_arm] at found
    change id < slots.fresh + 1
    split at found
    · have same := Option.some.inj found
      omega
    · exact Nat.lt_succ_of_lt (sound.below other id found)
  apart := by
    intro first second id one two
    rw [handle_arm] at one two
    split at one
    · split at two
      · rename_i same other
        rw [same, other]
      · have below := sound.below second id two
        have new := Option.some.inj one
        omega
    · split at two
      · have below := sound.below first id one
        have new := Option.some.inj two
        omega
      · exact sound.apart first second id one two
  running := by
    intro other fresh id found
    rw [handle_arm] at found
    unfold Slots.arm
    dsimp only
    split at found
    · rename_i same
      rw [← Option.some.inj found, same]
      exact ⟨due, by rw [Dict.get?_set, if_pos rfl]⟩
    · obtain ⟨old, running⟩ := sound.running other fresh id found
      refine ⟨old, ?_⟩
      rw [Dict.get?_set, if_neg (Nat.ne_of_lt (sound.below other id found)), running]

theorem Sound.clear (slot : σ) : Sound stale (slots.clear slot) where
  held := by
    intro id timer found
    rw [handle_clear]
    unfold Slots.clear at found
    dsimp only at found
    cases handle : slots.handle slot with
    | none =>
        rw [handle] at found
        have held := sound.held id timer found
        rw [if_neg, held]
        intro same
        rw [same, handle] at held
        exact nomatch held
    | some old =>
        rw [handle] at found
        obtain ⟨other, before⟩ := Dict.get?_of_erase _ _ _ _ found
        have held := sound.held id timer before
        rw [if_neg, held]
        intro same
        rw [same, handle] at held
        exact other (Option.some.inj held).symm
  below := by
    intro other id found
    rw [handle_clear] at found
    split at found
    · exact nomatch found
    · exact sound.below other id found
  apart := by
    intro first second id one two
    rw [handle_clear] at one two
    split at one
    · exact nomatch one
    · split at two
      · exact nomatch two
      · exact sound.apart first second id one two
  running := by
    intro other fresh id found
    rw [handle_clear] at found
    split at found
    · exact nomatch found
    · rename_i different
      obtain ⟨due, running⟩ := sound.running other fresh id found
      refine ⟨due, ?_⟩
      unfold Slots.clear
      dsimp only
      cases handle : slots.handle slot with
      | none => exact running
      | some old =>
          dsimp only
          rw [Dict.get?_erase, if_neg, running]
          rintro rfl
          exact different (sound.apart other slot id found handle)

omit [DecidableEq σ] in
/-- A repeating timer stays in its slot. -/
theorem Sound.again (slot : σ) (id due old : ℕ) (found : slots.live.get? id = some ⟨slot, old⟩) :
    Sound stale (slots.again slot id due) where
  held := by
    intro other timer live
    rcases Dict.get?_of_set _ _ _ _ _ live with ⟨rfl, rfl⟩ | ⟨_, before⟩
    · exact sound.held _ ⟨slot, old⟩ found
    · exact sound.held other timer before
  below := sound.below
  apart := sound.apart
  running := by
    intro other fresh handle held
    obtain ⟨before, running⟩ := sound.running other fresh handle held
    by_cases same : handle = id
    · rw [same, found] at running
      have slots := congrArg Timer.slot (Option.some.inj running)
      dsimp only at slots
      rw [same, ← slots]
      exact ⟨due, by rw [Slots.again, Dict.get?_set, if_pos rfl]⟩
    · exact ⟨before, by rw [Slots.again, Dict.get?_set, if_neg same, running]⟩

omit [DecidableEq σ] in
/-- A timer whose slot may keep its handle is gone. -/
theorem Sound.expire (slot : σ) (id due : ℕ) (found : slots.live.get? id = some ⟨slot, due⟩)
    (kept : stale slot) : Sound stale (slots.expire id) where
  held := fun other timer live => sound.held other timer (Dict.get?_of_erase _ _ _ _ live).2
  below := sound.below
  apart := sound.apart
  running := by
    intro other fresh handle held
    obtain ⟨before, running⟩ := sound.running other fresh handle held
    refine ⟨before, ?_⟩
    rw [Slots.expire, Dict.get?_erase, if_neg, running]
    rintro rfl
    rw [found] at running
    have same := congrArg Timer.slot (Option.some.inj running)
    dsimp only at same
    exact fresh (same ▸ kept)

end Slots

end Library
