/-
This file embeds the timers that run with a session. The shell refreshes its tabs and checks the session,
and the live Overview polls the console and reconnects. They start and stop as sessions begin and end.
Toasts and the retries of the Identity Ledger have timers of their own, which are not counted here.
-/

import Mathlib.Algebra.Order.Group.Int
import OperationsConsole.Browser.Connection
import OperationsConsole.Library.Timers

namespace OperationsConsole.Browser

open Library

section Page

/-- The timers of a session: the first three belong to the shell, and the others belong to the live
Overview. -/
inductive Purpose where
  | refresh
  | sessionWatch
  | sessionExpiry
  | alerts
  | audit
  | progress
  | reconnect
  deriving DecidableEq

/-- A reconnection and the check of an expired session happen once. -/
def Purpose.period : Purpose → Option ℕ
  | .refresh => some 60000
  | .sessionWatch => some 15000
  | .alerts => some 30000
  | .audit => some 60000
  | .progress => some 30000
  | .sessionExpiry => none
  | .reconnect => none

/-- The longest delay of a timer. -/
def maxDelay : ℤ := 2147483647

structure PageTimers where
  slots : Slots Purpose := {}
  now : ℕ := 0
  signedIn : Bool := false
  generation : ℕ := 1
  active : Bool := false
  session : Option ℕ := none
  reconnectDelay : ℕ := reconnectBaseMs

/-- The time of expiry is absent when the console tells none. -/
inductive TimerInput where
  | elapse (time : ℕ)
  | fire (id : ℕ)
  | loggedIn
  | showPanel (expiresAt : Option ℤ)
  | showLogin (discards : Bool)
  | checked
  | reconnect
  | delivered

namespace PageTimers

variable (page : PageTimers)

def stopTimer (purpose : Purpose) : PageTimers := { page with slots := page.slots.clear purpose }

def setTimer (purpose : Purpose) (delay : ℕ) : PageTimers :=
  { page with slots := page.slots.arm purpose (page.now + delay) }

/-- A poller is stopped before it is started. -/
def startPolling (purpose : Purpose) : PageTimers :=
  (page.stopTimer purpose).setTimer purpose (purpose.period.getD 0)

def stopSessionWatch : PageTimers := (page.stopTimer .sessionWatch).stopTimer .sessionExpiry

/-- A check follows the expiry by one second, unless that is too late for a timer. -/
def startSessionWatch (expiresAt : Option ℤ) : PageTimers :=
  let watched := page.stopSessionWatch.setTimer .sessionWatch 15000
  match expiresAt with
  | none => watched
  | some expiresAt =>
      let delay := max (expiresAt - page.now) 0 + 1000
      if delay ≤ maxDelay then watched.setTimer .sessionExpiry delay.toNat else watched

def reconnect : PageTimers :=
  if page.active && (page.slots.handle .reconnect).isNone then
    { page.setTimer .reconnect page.reconnectDelay with
      reconnectDelay := min (page.reconnectDelay * 2) reconnectMaxMs }
  else page

/-- The live Overview hears that a session is there. -/
def start (session : ℕ) : PageTimers :=
  let resumed := page.active && page.session = some session
  let page := { page with session := some session, active := true }
  if resumed then page.reconnect
  else
    { ((page.startPolling .alerts).startPolling .audit).startPolling .progress with
      reconnectDelay := reconnectBaseMs }

/-- The live Overview hears that the session is over. -/
def stop : PageTimers :=
  { (((page.stopTimer .alerts).stopTimer .audit).stopTimer .progress).stopTimer .reconnect with
    active := false, session := none, reconnectDelay := reconnectBaseMs }

/-- The timers of the shell. -/
def startShell (expiresAt : Option ℤ) : PageTimers :=
  (({ page with signedIn := true } : PageTimers).startPolling .refresh).startSessionWatch expiresAt

def showPanel (expiresAt : Option ℤ) : PageTimers :=
  (page.startShell expiresAt).start (page.startShell expiresAt).generation

/-- The generation changes if the reason discards the session. -/
def showLogin (discards : Bool) : PageTimers :=
  let generation := if discards then page.generation + 1 else page.generation
  let left := { page with signedIn := false, generation := generation }
  let left := left.stopSessionWatch.stopTimer .refresh
  if page.signedIn then left.stop else left

/-- The session was confirmed, and the live Overview hears it again. -/
def checked : PageTimers := if page.signedIn then page.start page.generation else page

/-- A timer fires when it is due. -/
def fire (id : ℕ) : PageTimers :=
  match page.slots.live.get? id with
  | none => page
  | some timer =>
      if timer.due ≤ page.now then
        match timer.slot.period with
        | some period => { page with slots := page.slots.again timer.slot id (page.now + period) }
        | none =>
            if timer.slot = .reconnect then
              { page with slots := (page.slots.expire id).forget .reconnect }
            else { page with slots := page.slots.expire id }
      else page

def step : TimerInput → PageTimers
  | .elapse time => { page with now := page.now + time }
  | .fire id => page.fire id
  | .loggedIn => { page with generation := page.generation + 1 }
  | .showPanel expiresAt => page.showPanel expiresAt
  | .showLogin discards => page.showLogin discards
  | .checked => page.checked
  | .reconnect => page.reconnect
  | .delivered => { page with reconnectDelay := reconnectBaseMs }

end PageTimers

def timersAfter (history : List TimerInput) : PageTimers := after PageTimers.step {} history

end Page

section Sessions

namespace PageTimers

/-- The pollers run through a session. -/
def pollers : List Purpose := [.refresh, .sessionWatch, .alerts, .audit, .progress]

/-- Only the check of an expired session leaves its handle behind. -/
def Stale (purpose : Purpose) : Prop := purpose = .sessionExpiry

/-- The handles of the page are those of its session. -/
structure Coherent (page : PageTimers) : Prop where
  sound : page.slots.Sound Stale
  agrees : page.active = page.signedIn
  polling : page.signedIn = true → ∀ purpose ∈ pollers, (page.slots.handle purpose).isSome = true
  silent : page.signedIn = false → ∀ purpose, page.slots.handle purpose = none

/-- A live timer serves one purpose of the session, and a page that is signed out has none. -/
structure TimerLaw (page : PageTimers) : Prop where
  signedOut : page.signedIn = false → page.slots.live = .empty
  polls : page.signedIn = true → ∀ purpose ∈ pollers,
    ∃ id due, page.slots.live.get? id = some ⟨purpose, due⟩
  single : ∀ first second one two, page.slots.live.get? first = some one →
    page.slots.live.get? second = some two → one.slot = two.slot → first = second
  clearable : ∀ id timer, page.slots.live.get? id = some timer →
    page.slots.handle timer.slot = some id

section Operations

variable (page : PageTimers)

/-- A stopped timer loses its handle, and no other one does. -/
theorem handle_stopTimer (purpose other : Purpose) : (page.stopTimer purpose).slots.handle other =
    if other = purpose then none else page.slots.handle other :=
  page.slots.handle_clear purpose other

/-- A timer that is set takes a fresh handle. -/
theorem handle_setTimer (purpose : Purpose) (delay : ℕ) (other : Purpose) :
    (page.setTimer purpose delay).slots.handle other =
      if other = purpose then some page.slots.fresh else page.slots.handle other :=
  page.slots.handle_arm purpose _ other

/-- A polling that starts takes a fresh handle. -/
theorem handle_startPolling (purpose other : Purpose) :
    (page.startPolling purpose).slots.handle other =
      if other = purpose then some page.slots.fresh else page.slots.handle other := by
  rw [startPolling, handle_setTimer, handle_stopTimer]
  split
  · rfl
  · rfl

variable {page} (sound : page.slots.Sound Stale)

include sound

/-- No timer is left without a handle when a polling starts. -/
theorem sound_startPolling (purpose : Purpose) : (page.startPolling purpose).slots.Sound Stale :=
  (sound.clear purpose).arm purpose _ ((page.handle_stopTimer purpose purpose).trans (if_pos rfl))

/-- No timer is left without a handle when the session watch stops. -/
theorem sound_stopSessionWatch : page.stopSessionWatch.slots.Sound Stale :=
  (sound.clear .sessionWatch).clear .sessionExpiry

omit sound in
variable (page) in
/-- The end of the session watch clears its two handles. -/
theorem handle_stopSessionWatch (other : Purpose) : page.stopSessionWatch.slots.handle other =
    if other = .sessionExpiry then none
    else if other = .sessionWatch then none else page.slots.handle other := by
  rw [stopSessionWatch, handle_stopTimer, handle_stopTimer]

/-- A new watch replaces the old one, with the check of its expiry. -/
theorem sound_startSessionWatch (expiresAt : Option ℤ) :
    (page.startSessionWatch expiresAt).slots.Sound Stale := by
  have watched := (sound_stopSessionWatch sound).arm .sessionWatch (page.now + 15000)
    (page.handle_stopSessionWatch .sessionWatch)
  unfold startSessionWatch
  cases expiresAt with
  | none => exact watched
  | some expiresAt =>
      dsimp only
      split
      · apply watched.arm
        rw [Slots.handle_arm, if_neg (by decide)]
        exact page.handle_stopSessionWatch .sessionExpiry
      · exact watched

omit sound in
variable (page) in
/-- The session watch has a handle from its start on. -/
theorem handle_startSessionWatch (expiresAt : Option ℤ) :
    ((page.startSessionWatch expiresAt).slots.handle .sessionWatch).isSome = true ∧
      ∀ other, other ≠ .sessionWatch → other ≠ .sessionExpiry →
        (page.startSessionWatch expiresAt).slots.handle other = page.slots.handle other := by
  have watched (other : Purpose) :
      (page.stopSessionWatch.setTimer .sessionWatch 15000).slots.handle other =
        if other = .sessionWatch then some page.stopSessionWatch.slots.fresh
        else page.stopSessionWatch.slots.handle other :=
    handle_setTimer _ _ _ other
  unfold startSessionWatch
  cases expiresAt with
  | none =>
      dsimp only
      refine ⟨by rw [watched]; rfl, ?_⟩
      intro other watch expiry
      rw [watched, if_neg watch, handle_stopSessionWatch, if_neg expiry, if_neg watch]
  | some expiresAt =>
      dsimp only
      split
      · refine ⟨by rw [handle_setTimer, watched]; rfl, ?_⟩
        intro other watch expiry
        rw [handle_setTimer, if_neg expiry, watched, if_neg watch, handle_stopSessionWatch,
          if_neg expiry, if_neg watch]
      · refine ⟨by rw [watched]; rfl, ?_⟩
        intro other watch expiry
        rw [watched, if_neg watch, handle_stopSessionWatch, if_neg expiry, if_neg watch]

omit sound in
variable (page) in
theorem startSessionWatch_frame (expiresAt : Option ℤ) :
    (page.startSessionWatch expiresAt).active = page.active ∧
      (page.startSessionWatch expiresAt).signedIn = page.signedIn ∧
      (page.startSessionWatch expiresAt).generation = page.generation := by
  unfold startSessionWatch
  cases expiresAt with
  | none => exact ⟨rfl, rfl, rfl⟩
  | some expiresAt =>
      dsimp only
      split <;> exact ⟨rfl, rfl, rfl⟩

/-- A reconnection is scheduled once. -/
theorem sound_reconnect : page.reconnect.slots.Sound Stale := by
  unfold reconnect
  split
  · rename_i idle
    rw [Bool.and_eq_true, Option.isNone_iff_eq_none] at idle
    exact sound.arm .reconnect _ idle.2
  · exact sound

omit sound in
variable (page) in
theorem reconnect_frame : page.reconnect.active = page.active ∧
    page.reconnect.signedIn = page.signedIn ∧
    ∀ other, other ≠ .reconnect → page.reconnect.slots.handle other = page.slots.handle other := by
  unfold reconnect
  split
  · refine ⟨rfl, rfl, ?_⟩
    intro other apart
    exact (handle_setTimer page .reconnect _ other).trans (if_neg apart)
  · exact ⟨rfl, rfl, fun _ _ => rfl⟩

/-- The pollers of the live Overview. -/
def OverviewPolls (page : PageTimers) : Prop :=
  ∀ purpose ∈ [Purpose.alerts, .audit, .progress], (page.slots.handle purpose).isSome = true

/-- What starting the live Overview does. -/
structure Started (page later : PageTimers) : Prop where
  sound : later.slots.Sound Stale
  active : later.active = true
  signedIn : later.signedIn = page.signedIn
  polls : OverviewPolls later
  kept : ∀ other, other = .refresh ∨ other = .sessionWatch →
    later.slots.handle other = page.slots.handle other

/-- A sign-in starts the polls of the overview. -/
theorem started_start (session : ℕ) (polls : page.active = true → OverviewPolls page) :
    Started page (page.start session) := by
  unfold start
  dsimp only
  split
  · rename_i resumed
    rw [Bool.and_eq_true] at resumed
    obtain ⟨active, signedIn, handles⟩ :=
      reconnect_frame { page with session := some session, active := true }
    refine ⟨sound_reconnect sound, active, signedIn, ?_, ?_⟩
    · intro purpose member
      have apart : purpose ≠ .reconnect := by
        rintro rfl
        exact absurd member (by decide)
      rw [handles purpose apart]
      exact polls resumed.1 purpose member
    · rintro other (rfl | rfl)
      · exact handles _ (by decide)
      · exact handles _ (by decide)
  · refine ⟨sound_startPolling (sound_startPolling (sound_startPolling sound .alerts) .audit) .progress,
      rfl, rfl, ?_, ?_⟩
    · intro purpose member
      simp only [handle_startPolling]
      simp only [List.mem_cons, List.not_mem_nil, or_false] at member
      rcases member with rfl | rfl | rfl <;> rfl
    · rintro other (rfl | rfl)
      · simp only [handle_startPolling]
        rfl
      · simp only [handle_startPolling]
        rfl

end Operations

section Steps

variable {page : PageTimers} (coherent : page.Coherent)

include coherent

/-- An active page polls for the overview. -/
theorem Coherent.overviewPolls (active : page.active = true) : OverviewPolls page := by
  intro purpose member
  apply coherent.polling (coherent.agrees ▸ active)
  simp only [List.mem_cons, List.not_mem_nil, or_false] at member
  rcases member with rfl | rfl | rfl <;> decide

/-- The page of a session stays coherent when the live Overview starts. -/
theorem Coherent.start (signedIn : page.signedIn = true) (session : ℕ) :
    (page.start session).Coherent := by
  obtain ⟨sound, active, same, polls, kept⟩ := started_start coherent.sound session
    coherent.overviewPolls
  refine ⟨sound, by rw [active, same, signedIn], ?_, ?_⟩
  · intro _ purpose member
    simp only [pollers, List.mem_cons, List.not_mem_nil, or_false] at member
    rcases member with rfl | rfl | rfl | rfl | rfl
    · rw [kept _ (.inl rfl)]
      exact coherent.polling signedIn _ (by decide)
    · rw [kept _ (.inr rfl)]
      exact coherent.polling signedIn _ (by decide)
    · exact polls _ (by decide)
    · exact polls _ (by decide)
    · exact polls _ (by decide)
  · intro out
    rw [same, signedIn] at out
    exact nomatch out

/-- The shell starts its timers beside those of the live Overview. -/
theorem Coherent.startShell (expiresAt : Option ℤ) :
    (page.startShell expiresAt).slots.Sound Stale ∧
      (page.startShell expiresAt).active = page.active ∧
      (page.startShell expiresAt).signedIn = true ∧
      (∀ purpose ∈ [Purpose.refresh, .sessionWatch],
        ((page.startShell expiresAt).slots.handle purpose).isSome = true) ∧
      ∀ purpose ∈ [Purpose.alerts, .audit, .progress],
        (page.startShell expiresAt).slots.handle purpose = page.slots.handle purpose := by
  have refreshed : (({ page with signedIn := true } : PageTimers).startPolling
      .refresh).slots.Sound Stale :=
    sound_startPolling coherent.sound .refresh
  obtain ⟨watch, others⟩ := handle_startSessionWatch
    (({ page with signedIn := true } : PageTimers).startPolling .refresh) expiresAt
  obtain ⟨active, signedIn, _⟩ := startSessionWatch_frame
    (({ page with signedIn := true } : PageTimers).startPolling .refresh) expiresAt
  refine ⟨sound_startSessionWatch refreshed expiresAt, active, signedIn, ?_, ?_⟩
  · intro purpose member
    simp only [List.mem_cons, List.not_mem_nil, or_false] at member
    rcases member with rfl | rfl
    · rw [PageTimers.startShell, others _ (by decide) (by decide), handle_startPolling]
      rfl
    · exact watch
  · intro purpose member
    have apart : purpose ≠ .sessionWatch ∧ purpose ≠ .sessionExpiry ∧ purpose ≠ .refresh := by
      simp only [List.mem_cons, List.not_mem_nil, or_false] at member
      rcases member with rfl | rfl | rfl <;> decide
    rw [PageTimers.startShell, others purpose apart.1 apart.2.1, handle_startPolling,
      if_neg apart.2.2]

/-- A panel that is shown keeps the timers coherent. -/
theorem Coherent.showPanel (expiresAt : Option ℤ) : (page.showPanel expiresAt).Coherent := by
  obtain ⟨shell, active, signedIn, polling, others⟩ := coherent.startShell expiresAt
  have polls : (page.startShell expiresAt).active = true →
      OverviewPolls (page.startShell expiresAt) := by
    intro running purpose member
    rw [others purpose member]
    exact coherent.overviewPolls (active ▸ running) purpose member
  obtain ⟨sound, running, same, started, kept⟩ := started_start shell
    (page.startShell expiresAt).generation polls
  have signed : (page.showPanel expiresAt).signedIn = true := same.trans signedIn
  refine ⟨sound, running.trans signed.symm, ?_, ?_⟩
  · intro _ purpose member
    simp only [pollers, List.mem_cons, List.not_mem_nil, or_false] at member
    rcases member with rfl | rfl | rfl | rfl | rfl
    · exact (congrArg Option.isSome (kept _ (.inl rfl))).trans (polling .refresh (by decide))
    · exact (congrArg Option.isSome (kept _ (.inr rfl))).trans (polling .sessionWatch (by decide))
    · exact started .alerts (by decide)
    · exact started .audit (by decide)
    · exact started .progress (by decide)
  · intro out
    rw [signed] at out
    exact nomatch out

/-- Every timer of a session is stopped with it. -/
theorem Coherent.showLogin (discards : Bool) : (page.showLogin discards).Coherent := by
  have sound := coherent.sound
  have left : ((page.slots.clear .sessionWatch |>.clear .sessionExpiry).clear .refresh).Sound Stale :=
    ((sound.clear .sessionWatch).clear .sessionExpiry).clear .refresh
  unfold PageTimers.showLogin
  dsimp only
  split
  · refine ⟨(((left.clear .alerts).clear .audit).clear .progress).clear .reconnect, rfl,
      (fun signed => nomatch signed), ?_⟩
    intro _ purpose
    change (Slots.clear _ _).handle purpose = none
    simp only [Slots.handle_clear]
    cases purpose <;> rfl
  · rename_i out
    have signedOut : page.signedIn = false := Bool.not_eq_true _ ▸ out
    refine ⟨left, coherent.agrees.trans signedOut, (fun signed => nomatch signed), ?_⟩
    intro _ purpose
    simp only [handle_stopTimer, handle_stopSessionWatch, coherent.silent signedOut, ite_self]

/-- Every timer that fires stays or loses its handle, except the check of an expired session. -/
theorem Coherent.fire (id : ℕ) : (page.fire id).Coherent := by
  unfold PageTimers.fire
  split
  · exact coherent
  · rename_i timer found
    obtain ⟨slot, due⟩ := timer
    dsimp only
    split
    · split
      · exact ⟨coherent.sound.again slot id _ due found, coherent.agrees, coherent.polling,
          coherent.silent⟩
      · rename_i once
        have held := coherent.sound.held id _ found
        split
        · rename_i reconnects
          have cleared := page.slots.expire_forget .reconnect id (reconnects ▸ held)
          refine ⟨?_, coherent.agrees, ?_, ?_⟩
          · rw [cleared]
            exact coherent.sound.clear .reconnect
          · intro signed purpose member
            rw [cleared, Slots.handle_clear, if_neg]
            · exact coherent.polling signed purpose member
            · rintro rfl
              exact absurd member (by decide)
          · intro out purpose
            rw [cleared, Slots.handle_clear, coherent.silent out, ite_self]
        · rename_i other
          have expiry : slot = .sessionExpiry := by
            cases slot with
            | sessionExpiry => rfl
            | reconnect => exact absurd rfl other
            | _ => exact nomatch once
          exact ⟨coherent.sound.expire slot id due found expiry, coherent.agrees, coherent.polling,
            coherent.silent⟩
    · exact coherent

/-- A reconnection keeps the timers coherent. -/
theorem Coherent.reconnect : page.reconnect.Coherent := by
  obtain ⟨active, signedIn, handles⟩ := page.reconnect_frame
  refine ⟨sound_reconnect coherent.sound, by rw [active, signedIn, coherent.agrees], ?_, ?_⟩
  · intro signed purpose member
    rw [handles purpose]
    · exact coherent.polling (signedIn ▸ signed) purpose member
    · rintro rfl
      exact absurd member (by decide)
  · intro out
    have idle : page.active = false := coherent.agrees.trans (signedIn ▸ out)
    have same : page.reconnect = page := by
      rw [PageTimers.reconnect, idle]
      rfl
    rw [same]
    exact coherent.silent (signedIn ▸ out)

/-- Every step keeps the timers coherent. -/
theorem Coherent.step (input : TimerInput) : (page.step input).Coherent := by
  cases input with
  | elapse time => exact ⟨coherent.sound, coherent.agrees, coherent.polling, coherent.silent⟩
  | fire id => exact coherent.fire id
  | loggedIn => exact ⟨coherent.sound, coherent.agrees, coherent.polling, coherent.silent⟩
  | showPanel expiresAt => exact coherent.showPanel expiresAt
  | showLogin discards => exact coherent.showLogin discards
  | checked =>
      unfold PageTimers.step checked
      dsimp only
      split
      · rename_i signedIn
        exact coherent.start signedIn page.generation
      · exact coherent
  | reconnect => exact coherent.reconnect
  | delivered => exact ⟨coherent.sound, coherent.agrees, coherent.polling, coherent.silent⟩

/-- Coherent timers obey the law. -/
theorem Coherent.law : TimerLaw page where
  signedOut := fun out => coherent.sound.live_empty (coherent.silent out)
  polls := by
    intro signed purpose member
    obtain ⟨id, handle⟩ := Option.isSome_iff_exists.mp (coherent.polling signed purpose member)
    obtain ⟨due, live⟩ := coherent.sound.running purpose
      (by rintro rfl; exact absurd member (by decide)) id handle
    exact ⟨id, due, live⟩
  single := fun first second one two found other same =>
    coherent.sound.single first second one two same found other
  clearable := coherent.sound.held

end Steps

/-- In every run, each poller has one timer during a session, and no timer outlives the session. -/
theorem timersAfter_law (history : List TimerInput) : TimerLaw (timersAfter history) := by
  have coherent : (timersAfter history).Coherent := by
    induction history with
    | nil => exact ⟨Slots.sound_start, rfl, (fun signed => nomatch signed), fun _ _ => rfl⟩
    | cons input earlier coherent => exact coherent.step input
  exact coherent.law

end PageTimers

end Sessions

end OperationsConsole.Browser
