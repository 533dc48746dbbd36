/-
This file embeds the toast of the shell. A toast stays for its whole time after the newest message, and
it is gone after that.
-/

import OperationsConsole.Library.Loop
import OperationsConsole.Library.Timers

namespace OperationsConsole.Browser

open Library

section Toasts

/-- The first timer fades the toast out, and the second one takes it away. -/
inductive ToastTimer where
  | hide
  | remove
  deriving DecidableEq

/-- The color tells whether the message is good news. -/
structure ToastMessage where
  text : String
  success : Bool
  deriving DecidableEq

/-- A frame of the browser raises the toast after it is shown. -/
structure Toast where
  slots : Slots ToastTimer := {}
  now : ℕ := 0
  message : Option ToastMessage := none
  displayed : Bool := false
  raised : Bool := false
  frames : ℕ := 0

inductive ToastInput where
  | shown (message : ToastMessage)
  | frame
  | elapse (time : ℕ)
  | fire (id : ℕ)

namespace Toast

variable (toast : Toast)

/-- The timers of an earlier toast are cleared first. -/
def showToast (message : ToastMessage) : Toast where
  slots := ((toast.slots.clear .hide).clear .remove).arm .hide (toast.now + 3000)
  now := toast.now
  message := some message
  displayed := true
  raised := toast.raised
  frames := toast.frames + 1

def fire (id : ℕ) : Toast :=
  match toast.slots.live.get? id with
  | none => toast
  | some timer =>
      if timer.due ≤ toast.now then
        match timer.slot with
        | .hide => { toast with
            raised := false
            slots := ((toast.slots.expire id).arm .remove (toast.now + 300)).forget .hide }
        | .remove => { toast with
            displayed := false
            slots := (toast.slots.expire id).forget .remove }
      else toast

def step : ToastInput → Toast
  | .shown message => toast.showToast message
  | .frame => if 0 < toast.frames then { toast with frames := 0, raised := true } else toast
  | .elapse time => { toast with now := toast.now + time }
  | .fire id => toast.fire id

end Toast

def toastAfter (history : List ToastInput) : Toast := after Toast.step {} history

/-- The newest message of a run. -/
def newestMessage : List ToastInput → Option ToastMessage
  | [] => none
  | .shown message :: _ => some message
  | _ :: earlier => newestMessage earlier

/-- The time since the newest message of a run. -/
def sinceMessage : List ToastInput → ℕ
  | [] => 0
  | .shown _ :: _ => 0
  | .elapse time :: earlier => sinceMessage earlier + time
  | _ :: earlier => sinceMessage earlier

end Toasts

section Times

/-- The timers of a toast are due at their times after the newest message. -/
structure Timed (history : List ToastInput) (toast : Toast) : Prop where
  sound : toast.slots.Sound fun _ => False
  message : toast.message = newestMessage history
  hide : ∀ id due, toast.slots.live.get? id = some ⟨.hide, due⟩ →
    due + sinceMessage history = toast.now + 3000
  remove : ∀ id due, toast.slots.live.get? id = some ⟨.remove, due⟩ →
    toast.now + 3300 ≤ due + sinceMessage history
  apart : (toast.slots.handle .hide).isSome = true → toast.slots.handle .remove = none
  displayed : toast.displayed = true ↔
    (toast.slots.handle .hide).isSome = true ∨ (toast.slots.handle .remove).isSome = true
  gone : toast.displayed = false → newestMessage history ≠ none → 3300 ≤ sinceMessage history

/-- A toast shows the newest message for its whole time, and one timer is left to end it. -/
structure ToastLaw (history : List ToastInput) : Prop where
  newest : (toastAfter history).message = newestMessage history
  lasts : newestMessage history ≠ none → sinceMessage history < 3300 →
    (toastAfter history).displayed = true
  ends : (toastAfter history).displayed = true →
    ∃ id timer, ∀ other found, (toastAfter history).slots.live.get? other = some found ↔
      other = id ∧ found = timer
  quiet : (toastAfter history).displayed = false → (toastAfter history).slots.live = .empty

variable {history : List ToastInput} {toast : Toast} (timed : Timed history toast)

include timed

/-- A new message starts the time again, whatever timers were left. -/
theorem Timed.shown (message : ToastMessage) :
    Timed (.shown message :: history) (toast.showToast message) := by
  have cleared := (timed.sound.clear .hide).clear .remove
  have empty : ((toast.slots.clear .hide).clear .remove).handle .hide = none := by
    rw [Slots.handle_clear, Slots.handle_clear]
    rfl
  have sound := cleared.arm .hide (toast.now + 3000) empty
  have hide : (toast.showToast message).slots.handle .hide = some toast.slots.fresh := by
    rw [Toast.showToast, Slots.handle_arm]
    rfl
  have remove : (toast.showToast message).slots.handle .remove = none := by
    rw [Toast.showToast, Slots.handle_arm, Slots.handle_clear]
    rfl
  refine ⟨sound, rfl, ?_, ?_, fun _ => remove, ?_, (fun hidden => nomatch hidden)⟩
  · intro id due found
    rcases Dict.get?_of_set _ _ _ _ _ found with ⟨_, new⟩ | ⟨_, old⟩
    · have same : due = toast.now + 3000 := congrArg Timer.due new
      rw [same]
      rfl
    · have held := cleared.held id _ old
      rw [empty] at held
      exact nomatch held
  · intro id due found
    have held := sound.held id _ found
    exact nomatch remove.symm.trans held
  · rw [hide]
    exact iff_of_true rfl (.inl rfl)

/-- A timer of a toast ends its part of the time. -/
theorem Timed.fire (id : ℕ) : Timed (.fire id :: history) (toast.fire id) := by
  have same : Timed (.fire id :: history) toast :=
    ⟨timed.sound, timed.message, timed.hide, timed.remove, timed.apart, timed.displayed, timed.gone⟩
  unfold Toast.fire
  split
  · exact same
  · rename_i timer found
    obtain ⟨slot, due⟩ := timer
    have held := timed.sound.held id _ found
    dsimp only at held ⊢
    split
    · rename_i reached
      cases slot with
      | hide =>
          have shown := timed.hide id due found
          have idle := timed.apart (by rw [held]; rfl)
          have cleared := timed.sound.clear .hide
          have order : ((toast.slots.expire id).arm .remove (toast.now + 300)).forget .hide =
              (toast.slots.clear .hide).arm .remove (toast.now + 300) := by
            rw [← toast.slots.expire_forget .hide id held]
            unfold Slots.forget Slots.arm Slots.expire
            rw [Function.update_comm (by decide)]
          have empty : (toast.slots.clear .hide).handle .remove = none := by
            rw [Slots.handle_clear, if_neg (by decide), idle]
          have sound := cleared.arm .remove (toast.now + 300) empty
          have hide : ((toast.slots.clear .hide).arm .remove (toast.now + 300)).handle .hide = none := by
            rw [Slots.handle_arm, if_neg (by decide), Slots.handle_clear, if_pos rfl]
          have remove : ((toast.slots.clear .hide).arm .remove (toast.now + 300)).handle .remove =
              some (toast.slots.clear .hide).fresh := by
            rw [Slots.handle_arm, if_pos rfl]
          dsimp only
          rw [order]
          refine ⟨sound, timed.message, ?_, ?_, ?_, ?_, timed.gone⟩
          · intro other due live
            have held := sound.held other _ live
            exact nomatch hide.symm.trans held
          · intro other later live
            rcases Dict.get?_of_set _ _ _ _ _ live with ⟨_, new⟩ | ⟨_, old⟩
            · injection new with _ same
              rw [same]
              change toast.now + 3300 ≤ toast.now + 300 + sinceMessage history
              omega
            · have held := cleared.held other _ old
              exact nomatch empty.symm.trans held
          · intro some
            dsimp only at some
            rw [hide] at some
            exact nomatch some
          · dsimp only
            rw [remove]
            exact iff_of_true (timed.displayed.mpr (.inl (by rw [held]; rfl))) (.inr rfl)
      | remove =>
          have shown := timed.remove id due found
          have cleared := timed.sound.clear .remove
          have hide : toast.slots.handle .hide = none := by
            cases handle : toast.slots.handle .hide with
            | none => rfl
            | some other =>
                have idle := timed.apart (by rw [handle]; rfl)
                exact nomatch idle.symm.trans held
          have idle (slot : ToastTimer) : (toast.slots.clear .remove).handle slot = none := by
            rw [Slots.handle_clear]
            cases slot with
            | hide => exact hide
            | remove => rfl
          dsimp only
          rw [toast.slots.expire_forget .remove id held]
          refine ⟨cleared, timed.message, ?_, ?_, ?_, ?_, ?_⟩
          · exact fun other due live => nomatch (idle _).symm.trans (cleared.held other _ live)
          · exact fun other due live => nomatch (idle _).symm.trans (cleared.held other _ live)
          · exact fun _ => idle .remove
          · dsimp only
            rw [idle, idle]
            simp
          · intro _ _
            change 3300 ≤ sinceMessage history
            omega
    · exact same

theorem Timed.step (input : ToastInput) : Timed (input :: history) (toast.step input) := by
  cases input with
  | shown message => exact timed.shown message
  | frame =>
      unfold Toast.step
      dsimp only
      split
      · exact ⟨timed.sound, timed.message, timed.hide, timed.remove, timed.apart, timed.displayed,
          timed.gone⟩
      · exact ⟨timed.sound, timed.message, timed.hide, timed.remove, timed.apart, timed.displayed,
          timed.gone⟩
  | elapse time =>
      refine ⟨timed.sound, timed.message, ?_, ?_, timed.apart, timed.displayed, ?_⟩
      · intro id due found
        have shown := timed.hide id due found
        change due + (sinceMessage history + time) = toast.now + time + 3000
        omega
      · intro id due found
        have shown := timed.remove id due found
        change toast.now + time + 3300 ≤ due + (sinceMessage history + time)
        omega
      · intro hidden known
        have gone := timed.gone hidden known
        change 3300 ≤ sinceMessage history + time
        omega
  | fire id => exact timed.fire id

omit timed in
theorem timed_toastAfter (history : List ToastInput) : Timed history (toastAfter history) := by
  induction history with
  | nil =>
      exact ⟨Slots.sound_start, rfl, (fun _ _ found => nomatch found),
        (fun _ _ found => nomatch found), fun _ => rfl, by decide, fun _ known => absurd rfl known⟩
  | cons input earlier timed => exact timed.step input

theorem Timed.ends (displayed : toast.displayed = true) :
    ∃ id timer, ∀ other found, toast.slots.live.get? other = some found ↔
      other = id ∧ found = timer := by
  have only (slot : ToastTimer) (id : ℕ) (handle : toast.slots.handle slot = some id)
      (alone : ∀ other, other ≠ slot → toast.slots.handle other = none) :
      ∃ id timer, ∀ other found, toast.slots.live.get? other = some found ↔
        other = id ∧ found = timer := by
    obtain ⟨due, live⟩ := timed.sound.running slot not_false id handle
    refine ⟨id, ⟨slot, due⟩, fun other found => ⟨?_, ?_⟩⟩
    · intro listed
      have held := timed.sound.held other found listed
      have same : found.slot = slot := by
        by_contra apart
        exact nomatch (alone _ apart).symm.trans held
      rw [same, handle] at held
      have equal := (Option.some.inj held).symm
      rw [equal, live] at listed
      exact ⟨equal, (Option.some.inj listed).symm⟩
    · rintro ⟨rfl, rfl⟩
      exact live
  rcases timed.displayed.mp displayed with hide | remove
  · obtain ⟨id, handle⟩ := Option.isSome_iff_exists.mp hide
    apply only .hide id handle
    intro other apart
    cases other with
    | hide => exact absurd rfl apart
    | remove => exact timed.apart hide
  · obtain ⟨id, handle⟩ := Option.isSome_iff_exists.mp remove
    apply only .remove id handle
    intro other apart
    cases other with
    | remove => exact absurd rfl apart
    | hide =>
        cases hide : toast.slots.handle .hide with
        | none => rfl
        | some first => exact nomatch (timed.apart (by rw [hide]; rfl)).symm.trans handle

omit timed in
/-- After every history the toast shows its newest message for its time. -/
theorem toastAfter_law (history : List ToastInput) : ToastLaw history := by
  have timed := timed_toastAfter history
  refine ⟨timed.message, ?_, timed.ends, ?_⟩
  · intro known early
    cases displayed : (toastAfter history).displayed with
    | true => rfl
    | false =>
        have gone := timed.gone displayed known
        omega
  · intro hidden
    apply timed.sound.live_empty
    have idle : ¬((toastAfter history).slots.handle .hide).isSome = true ∧
        ¬((toastAfter history).slots.handle .remove).isSome = true := by
      rw [← not_or, ← timed.displayed, hidden]
      decide
    intro slot
    cases slot with
    | hide => exact Option.not_isSome_iff_eq_none.mp idle.1
    | remove => exact Option.not_isSome_iff_eq_none.mp idle.2

end Times

end OperationsConsole.Browser
