/-
This file decides when an answer ends only the browser session that it was asked about.
A sign-out does not compare its generation, so it can end the session of a later login.
-/

import OperationsConsole.Browser.AdminSession

namespace OperationsConsole.Browser

open Library

/-- An answer leaves the session of a later login alone, and it leaves the reason of a sign-out
alone that was answered after its own request was sent. -/
structure EndsOwnSession (console : Console) (input : ConsoleInput) : Prop where
  session : ∀ sent login, console.answered input = some sent → console.session = some login →
    sent < login → (console.step input).session = some login ∧
      (console.signedIn = true → (console.step input).signedIn = true)
  reason : ∀ sent ended, console.answered input = some sent → console.signedOut = some ended →
    sent < ended → (console.step input).reason = console.reason

/-- The answer of a sign-out is in time when no login succeeded since it was sent whose session is
the current one, and no sign-out with another reason was answered since and still shows it. -/
def SignOutInTime (console : Console) : ConsoleInput → Prop
  | .logoutAnswer index status => ∀ sent, console.logouts[index]? = some sent →
      (∀ login, console.session = some login → login ≤ sent) ∧
        ∀ ended, console.signedOut = some ended → sent < ended →
          console.reason = some (Console.signOutReason status)
  | _ => True

/-- A guarded request of the current generation was sent after the login of the session and after
the sign-out whose reason is shown. -/
structure GuardsHold (console : Console) : Prop where
  known : ∀ request ∈ console.guarded, request.generation ≤ console.generation
  past : ∀ ended, console.session = some ended ∨ console.signedOut = some ended →
    ended ≤ console.steps
  later : ∀ ended, console.session = some ended ∨ console.signedOut = some ended →
    ∀ request ∈ console.guarded, request.generation = console.generation → ended ≤ request.sent

section Guards

variable (console : Console)

/-- A step that answers a request or nothing keeps the guards. -/
theorem guards_of_fewer (later : Console) (guards : GuardsHold console)
    (steps : later.steps = console.steps)
    (fewer : ∀ request ∈ later.guarded, request ∈ console.guarded)
    (generation : console.generation ≤ later.generation)
    (records : ∀ ended, later.session = some ended ∨ later.signedOut = some ended →
      (console.session = some ended ∨ console.signedOut = some ended) ∧
        later.generation = console.generation) : GuardsHold later := by
  refine ⟨?_, ?_, ?_⟩
  · intro request member
    exact Nat.le_trans (guards.known request (fewer request member)) generation
  · intro ended recorded
    rw [steps]
    exact guards.past ended (records ended recorded).1
  · intro ended recorded request member current
    obtain ⟨before, same⟩ := records ended recorded
    exact guards.later ended before request (fewer request member) (current.trans same)

/-- A step that asks one more question in the current generation keeps the guards. -/
theorem guards_of_asked (later : Console) (guards : GuardsHold console)
    (steps : later.steps = console.steps) (generation : later.generation = console.generation)
    (session : later.session = console.session) (signedOut : later.signedOut = console.signedOut)
    (asked : ∀ request ∈ later.guarded, request ∈ console.guarded ∨ request = console.asked) :
    GuardsHold later := by
  refine ⟨?_, ?_, ?_⟩
  · intro request member
    rw [generation]
    rcases asked request member with old | new
    · exact guards.known request old
    · rw [new]
      exact Nat.le_refl _
  · rw [steps, session, signedOut]
    exact guards.past
  · rw [session, signedOut, generation]
    intro ended recorded request member current
    rcases asked request member with old | new
    · exact guards.later ended recorded request old current
    · rw [new]
      exact guards.past ended recorded

end Guards

section Fields

variable (console : Console) (reason : String) (session : SessionBody)

@[simp] theorem showLogin_generation (reason : Option String) :
    (console.showLogin reason).generation = console.generation := by
  unfold Console.showLogin
  dsimp only
  split <;> rfl

@[simp] theorem showLogin_steps (reason : Option String) :
    (console.showLogin reason).steps = console.steps := by
  unfold Console.showLogin
  dsimp only
  split <;> rfl

@[simp] theorem showLogin_guarded (reason : Option String) :
    (console.showLogin reason).guarded = console.guarded := by
  unfold Console.showLogin
  dsimp only
  split <;> rfl

@[simp] theorem showLogin_session (reason : Option String) :
    (console.showLogin reason).session = none := by
  unfold Console.showLogin
  dsimp only
  split <;> rfl

@[simp] theorem showLogin_signedOut (reason : Option String) :
    (console.showLogin reason).signedOut = none := by
  unfold Console.showLogin
  dsimp only
  split <;> rfl

@[simp] theorem showLogin_reason (reason : Option String) :
    (console.showLogin reason).reason = reason := by
  unfold Console.showLogin
  dsimp only
  split <;> rfl

/-- The end of a session never turns the generation back. -/
theorem endSession_generation :
    console.generation ≤ (console.endSession reason).generation := by
  unfold Console.endSession
  rw [showLogin_generation]
  split
  · exact Nat.le_succ _
  · exact Nat.le_refl _

/-- A discarded session gives way to the next generation. -/
theorem endSession_generation_of_discard (discard : reason ∈ sessionDiscardReasons) :
    (console.endSession reason).generation = console.generation + 1 := by
  unfold Console.endSession
  rw [showLogin_generation, if_pos discard]

@[simp] theorem endSession_steps : (console.endSession reason).steps = console.steps := by
  unfold Console.endSession
  rw [showLogin_steps]
  split <;> rfl

@[simp] theorem endSession_guarded : (console.endSession reason).guarded = console.guarded := by
  unfold Console.endSession
  rw [showLogin_guarded]
  split <;> rfl

/-- The end of a session leaves no session. -/
@[simp] theorem endSession_session : (console.endSession reason).session = none :=
  showLogin_session _ _

/-- The end of a session forgets the step of a sign-out. -/
@[simp] theorem endSession_signedOut : (console.endSession reason).signedOut = none :=
  showLogin_signedOut _ _

/-- The login page shows the reason of the end. -/
@[simp] theorem endSession_reason : (console.endSession reason).reason = some reason :=
  showLogin_reason _ _

/-- A sign-out always discards its session. -/
theorem signOutReason_discards (status : Option Nat) :
    Console.signOutReason status ∈ sessionDiscardReasons := by
  unfold Console.signOutReason
  split <;> decide

end Fields

section Step

variable (console : Console)

/-- A guarded request is a check at the start, a verification, or a request with the session. -/
theorem mem_guarded (request : Asked) :
    request ∈ console.guarded ↔ request ∈ console.resumes.map ResumeRequest.asked ∨
      request ∈ console.verifications.map Verification.asked ∨ request ∈ console.fetches := by
  unfold Console.guarded
  rw [List.mem_append, List.mem_append]

/-- A request that is left was there before an answer. -/
theorem mem_map_eraseIdx {α : Type} (asked : α → Asked) (requests : List α) (index : Nat)
    (request : Asked) (member : request ∈ (requests.eraseIdx index).map asked) :
    request ∈ requests.map asked :=
  ((List.eraseIdx_sublist requests index).map asked).subset member

/-- The end of a session keeps every guard. -/
theorem endSession_guards (reason : String) (guards : GuardsHold console) :
    GuardsHold (console.endSession reason) := by
  apply guards_of_fewer console _ guards
  · exact endSession_steps console reason
  · intro request member
    rwa [endSession_guarded] at member
  · exact endSession_generation console reason
  · simp

theorem showLogin_guards (reason : Option String) (guards : GuardsHold console) :
    GuardsHold (console.showLogin reason) := by
  apply guards_of_fewer console _ guards
  · exact showLogin_steps console reason
  · intro request member
    rwa [showLogin_guarded] at member
  · exact Nat.le_of_eq (showLogin_generation console reason).symm
  · simp

/-- The answer of a check at the start keeps every guard. -/
theorem resumeAnswer_guards (index : Nat) (reply : SessionReply) (guards : GuardsHold console) :
    GuardsHold (console.resumeAnswer index reply) := by
  unfold Console.resumeAnswer
  split
  · exact guards
  · have answered : GuardsHold { console with resumes := console.resumes.eraseIdx index } := by
      refine guards_of_fewer console _ guards rfl ?_ (Nat.le_refl _) fun _ same => ⟨same, rfl⟩
      intro request member
      rw [mem_guarded] at member ⊢
      exact member.imp_left (mem_map_eraseIdx _ _ _ _)
    dsimp only
    split
    · split
      · exact guards_of_fewer _ _ answered rfl (fun _ member => member) (Nat.le_refl _)
          fun _ same => ⟨same, rfl⟩
      · split
        · exact showLogin_guards _ _ answered
        · exact endSession_guards _ _ answered
    · exact answered

/-- The answer of a verification keeps every guard. -/
theorem verifyAnswer_guards (index : Nat) (reply : SessionReply) (guards : GuardsHold console) :
    GuardsHold (console.verifyAnswer index reply) := by
  unfold Console.verifyAnswer
  split
  · exact guards
  · have answered :
        GuardsHold { console with verifications := console.verifications.eraseIdx index } := by
      refine guards_of_fewer console _ guards rfl ?_ (Nat.le_refl _) fun _ same => ⟨same, rfl⟩
      intro request member
      rw [mem_guarded] at member ⊢
      exact member.imp_right (Or.imp_left (mem_map_eraseIdx _ _ _ _))
    dsimp only
    split
    · split
      · exact guards_of_fewer _ _ answered rfl (fun _ member => member) (Nat.le_refl _)
          fun _ same => ⟨same, rfl⟩
      · exact answered
    · split
      · exact endSession_guards _ _ answered
      · exact answered

/-- The answer of a request with the session keeps every guard. -/
theorem authFetchAnswer_guards (index : Nat) (status : Option Nat) (guards : GuardsHold console) :
    GuardsHold (console.authFetchAnswer index status) := by
  unfold Console.authFetchAnswer
  split
  · exact guards
  · have answered : GuardsHold { console with fetches := console.fetches.eraseIdx index } := by
      refine guards_of_fewer console _ guards rfl ?_ (Nat.le_refl _) fun _ same => ⟨same, rfl⟩
      intro request member
      rw [mem_guarded] at member ⊢
      exact member.imp_right (Or.imp_right List.mem_of_mem_eraseIdx)
    dsimp only
    split
    · split
      · exact endSession_guards _ _ answered
      · exact answered
    · exact answered

/-- A new verification is guarded by the session it is asked for. -/
theorem verifySession_guards (requested : Bool) (guards : GuardsHold console) :
    GuardsHold (console.verifySession requested) := by
  refine guards_of_asked console _ guards rfl rfl rfl rfl ?_
  intro request member
  unfold Console.verifySession at member
  rw [mem_guarded, List.map_append, List.mem_append, List.map_singleton,
    List.mem_singleton] at member
  rw [mem_guarded]
  tauto

/-- A new check at the start is guarded by the session it is asked for. -/
theorem resumeSession_guards (initial : Bool) (guards : GuardsHold console) :
    GuardsHold (console.resumeSession initial) := by
  refine guards_of_asked console _ guards rfl rfl rfl rfl ?_
  intro request member
  unfold Console.resumeSession at member
  rw [mem_guarded, List.map_append, List.mem_append, List.map_singleton,
    List.mem_singleton] at member
  rw [mem_guarded]
  tauto

/-- A new request is guarded by the session it is asked for. -/
theorem authFetch_guards (guards : GuardsHold console) : GuardsHold console.authFetch := by
  refine guards_of_asked console _ guards rfl rfl rfl rfl ?_
  intro request member
  unfold Console.authFetch at member
  rw [mem_guarded, List.mem_append, List.mem_singleton] at member
  rw [mem_guarded]
  tauto

/-- A new generation leaves every older request behind. -/
theorem guards_of_new (later : Console) (guards : GuardsHold console)
    (generation : later.generation = console.generation + 1)
    (guarded : ∀ request ∈ later.guarded, request ∈ console.guarded ∨
      (request.generation = console.generation + 1 ∧ console.steps ≤ request.sent))
    (records : ∀ ended, later.session = some ended ∨ later.signedOut = some ended →
      ended = console.steps ∨ console.session = some ended ∨ console.signedOut = some ended)
    (steps : later.steps = console.steps) : GuardsHold later := by
  have past : ∀ ended, later.session = some ended ∨ later.signedOut = some ended →
      ended ≤ console.steps := by
    intro ended recorded
    rcases records ended recorded with now | before
    · exact Nat.le_of_eq now
    · exact guards.past ended before
  refine ⟨?_, ?_, ?_⟩
  · intro request member
    rcases guarded request member with old | new
    · have known := guards.known request old
      omega
    · omega
  · rw [steps]
    exact past
  · intro ended recorded request member current
    rcases guarded request member with old | new
    · have known := guards.known request old
      omega
    · exact Nat.le_trans (past ended recorded) new.2

/-- A login keeps every guard, because it starts a later session. -/
theorem loginAnswer_guards (succeeded : Bool) (guards : GuardsHold console) :
    GuardsHold (console.loginAnswer succeeded) := by
  unfold Console.loginAnswer
  split
  · exact guards
  · dsimp only
    split
    · apply guards_of_new console _ guards
      · rfl
      · intro request member
        unfold Console.resumeSession at member
        rw [mem_guarded, List.map_append, List.mem_append, List.map_singleton,
          List.mem_singleton] at member
        rcases member with (old | new) | old
        · exact .inl ((mem_guarded console request).mpr (.inl old))
        · exact .inr (by rw [new]; exact ⟨rfl, Nat.le_refl _⟩)
        · exact .inl ((mem_guarded console request).mpr (.inr old))
      · intro ended recorded
        rcases recorded with now | before
        · exact .inl (Option.some.inj now).symm
        · exact .inr (.inr before)
      · rfl
    · exact guards_of_fewer console _ guards rfl (fun _ member => member) (Nat.le_refl _)
        fun _ same => ⟨same, rfl⟩

/-- The answer of a logout keeps every guard. -/
theorem logoutAnswer_guards (index : Nat) (status : Option Nat) (guards : GuardsHold console) :
    GuardsHold (console.logoutAnswer index status) := by
  unfold Console.logoutAnswer
  split
  · exact guards
  · dsimp only
    apply guards_of_new console _ guards
    · exact endSession_generation_of_discard _ _ (signOutReason_discards status)
    · intro request member
      have kept : request ∈ (Console.endSession _ _).guarded := member
      rw [endSession_guarded] at kept
      exact .inl kept
    · intro ended recorded
      rcases recorded with session | now
      · have gone : (Console.endSession _ _).session = some ended := session
        rw [endSession_session] at gone
        simp at gone
      · exact .inl (Option.some.inj now).symm
    · exact endSession_steps _ _

theorem logout_guards (guards : GuardsHold console) : GuardsHold console.logout :=
  guards_of_fewer console _ guards rfl (fun _ member => member) (Nat.le_refl _)
    fun _ same => ⟨same, rfl⟩

theorem start_guards (guards : GuardsHold console) : GuardsHold console.start := by
  have loaded : GuardsHold { console with loading := false } :=
    guards_of_fewer console _ guards rfl (fun _ member => member) (Nat.le_refl _)
      fun _ same => ⟨same, rfl⟩
  unfold Console.start
  split
  · dsimp only
    split
    · exact logout_guards _ loaded
    · exact resumeSession_guards _ _ loaded
  · exact guards

theorem expiryTick_guards (guards : GuardsHold console) : GuardsHold console.expiryTick := by
  unfold Console.expiryTick
  split
  · apply verifySession_guards
    exact guards_of_fewer console _ guards rfl (fun _ member => member) (Nat.le_refl _)
      fun _ same => ⟨same, rfl⟩
  · exact guards

/-- Every input keeps every guard. -/
theorem act_guards (input : ConsoleInput) (guards : GuardsHold console) :
    GuardsHold (console.act input) := by
  cases input with
  | loaded => exact start_guards console guards
  | login =>
      exact guards_of_fewer console _ guards rfl (fun _ member => member) (Nat.le_refl _)
        fun _ same => ⟨same, rfl⟩
  | loginAnswer succeeded => exact loginAnswer_guards console succeeded guards
  | resumeAnswer index reply => exact resumeAnswer_guards console index reply guards
  | watchTick =>
      unfold Console.act Console.watchTick
      dsimp only
      split
      · exact verifySession_guards console false guards
      · exact guards
  | expiryTick => exact expiryTick_guards console guards
  | checkRequested =>
      unfold Console.act Console.onSessionCheckRequested
      dsimp only
      split
      · exact verifySession_guards console true guards
      · exact guards
  | verifyAnswer index reply => exact verifyAnswer_guards console index reply guards
  | logout => exact logout_guards console guards
  | logoutAnswer index status => exact logoutAnswer_guards console index status guards
  | authFetch => exact authFetch_guards console guards
  | authFetchAnswer index status => exact authFetchAnswer_guards console index status guards

theorem act_steps (input : ConsoleInput) : (console.act input).steps = console.steps := by
  cases input with
  | loaded =>
      unfold Console.act Console.start
      dsimp only
      split
      · split <;> rfl
      · rfl
  | login => rfl
  | loginAnswer succeeded =>
      unfold Console.act Console.loginAnswer
      dsimp only
      split
      · rfl
      · split <;> rfl
  | resumeAnswer index reply =>
      unfold Console.act Console.resumeAnswer
      dsimp only
      split
      · rfl
      · split
        · split
          · rfl
          · split
            · exact showLogin_steps _ _
            · exact endSession_steps _ _
        · rfl
  | watchTick =>
      unfold Console.act Console.watchTick
      dsimp only
      split <;> rfl
  | expiryTick =>
      unfold Console.act Console.expiryTick
      dsimp only
      split <;> rfl
  | checkRequested =>
      unfold Console.act Console.onSessionCheckRequested
      dsimp only
      split <;> rfl
  | verifyAnswer index reply =>
      unfold Console.act Console.verifyAnswer
      dsimp only
      split
      · rfl
      · split
        · split <;> rfl
        · split
          · exact endSession_steps _ _
          · rfl
  | logout => rfl
  | logoutAnswer index status =>
      unfold Console.act Console.logoutAnswer
      dsimp only
      split
      · rfl
      · exact endSession_steps _ _
  | authFetch => rfl
  | authFetchAnswer index status =>
      unfold Console.act Console.authFetchAnswer
      dsimp only
      split
      · rfl
      · split
        · split
          · exact endSession_steps _ _
          · rfl
        · rfl

/-- Every step keeps every guard. -/
theorem step_guards (input : ConsoleInput) (guards : GuardsHold console) :
    GuardsHold (console.step input) := by
  have acted := act_guards console input guards
  refine ⟨acted.known, ?_, acted.later⟩
  intro ended recorded
  have past := acted.past ended recorded
  rw [act_steps] at past
  exact Nat.le_succ_of_le past

end Step

/-- The guards hold after every history. -/
theorem consoleAfter_guards (signOutPending : Bool) (history : List ConsoleInput) :
    GuardsHold (consoleAfter signOutPending history) := by
  induction history with
  | nil =>
      refine ⟨?_, ?_, ?_⟩ <;>
        · intro ended
          simp [consoleAfter, Console.guarded]
  | cons input earlier ih => exact step_guards _ input ih

section Ownership

variable (console : Console)

/-- An answer of an earlier generation changes neither the session nor the login form. -/
theorem endsOwn_of_guarded (input : ConsoleInput) (request : Asked) (guards : GuardsHold console)
    (answers : console.answered input = some request.sent) (member : request ∈ console.guarded)
    (stale : request.generation ≠ console.generation →
      (console.step input).session = console.session ∧
        (console.step input).signedIn = console.signedIn ∧
        (console.step input).reason = console.reason) : EndsOwnSession console input := by
  have early : ∀ ended, console.session = some ended ∨ console.signedOut = some ended →
      ∀ sent, console.answered input = some sent → sent < ended →
        request.generation ≠ console.generation := by
    intro ended recorded sent asked order current
    have later := guards.later ended recorded request member current
    rw [answers, Option.some.injEq] at asked
    omega
  constructor
  · intro sent login asked session order
    obtain ⟨same, signedIn, _⟩ := stale (early login (.inl session) sent asked order)
    rw [same, signedIn]
    exact ⟨session, id⟩
  · intro sent ended asked signedOut order
    exact (stale (early ended (.inr signedOut) sent asked order)).2.2

/-- An input that answers no such request ends no session. -/
theorem endsOwn_of_silent (input : ConsoleInput) (silent : console.answered input = none) :
    EndsOwnSession console input := by
  constructor <;>
    · intro sent ended asked
      rw [silent] at asked
      simp at asked

/-- The answer of a check at the start ends only the session it was asked for. -/
theorem resumeAnswer_endsOwn (index : Nat) (reply : SessionReply) (guards : GuardsHold console) :
    EndsOwnSession console (.resumeAnswer index reply) := by
  cases found : console.resumes[index]? with
  | none =>
      apply endsOwn_of_silent
      simp [Console.answered, found]
  | some request =>
      apply endsOwn_of_guarded console _ request.asked guards
      · simp [Console.answered, found]
      · rw [mem_guarded]
        exact .inl (List.mem_map_of_mem (List.mem_of_getElem? found))
      · intro stale
        unfold Console.step Console.act Console.resumeAnswer
        dsimp only
        rw [found]
        dsimp only
        rw [if_neg stale]
        exact ⟨rfl, rfl, rfl⟩

/-- A request of an earlier session does not own the present one. -/
theorem ownsSession_stale (generation : Nat) (stale : generation ≠ console.generation) :
    console.ownsSession generation = false := by
  unfold Console.ownsSession
  simp [stale]

/-- The answer of a verification ends only the session it was asked for. -/
theorem verifyAnswer_endsOwn (index : Nat) (reply : SessionReply) (guards : GuardsHold console) :
    EndsOwnSession console (.verifyAnswer index reply) := by
  cases found : console.verifications[index]? with
  | none =>
      apply endsOwn_of_silent
      simp [Console.answered, found]
  | some request =>
      apply endsOwn_of_guarded console _ request.asked guards
      · simp [Console.answered, found]
      · rw [mem_guarded]
        exact .inr (.inl (List.mem_map_of_mem (List.mem_of_getElem? found)))
      · intro stale
        unfold Console.step Console.act Console.verifyAnswer
        dsimp only
        rw [found]
        dsimp only
        rw [ownsSession_stale console _ stale]
        split
        · split <;> exact ⟨rfl, rfl, rfl⟩
        · exact ⟨rfl, rfl, rfl⟩

/-- The answer of a request ends only the session it was asked for. -/
theorem authFetchAnswer_endsOwn (index : Nat) (status : Option Nat)
    (guards : GuardsHold console) : EndsOwnSession console (.authFetchAnswer index status) := by
  cases found : console.fetches[index]? with
  | none =>
      apply endsOwn_of_silent
      simp [Console.answered, found]
  | some request =>
      apply endsOwn_of_guarded console _ request guards
      · simp [Console.answered, found]
      · rw [mem_guarded]
        exact .inr (.inr (List.mem_of_getElem? found))
      · intro stale
        unfold Console.step Console.act Console.authFetchAnswer
        dsimp only
        rw [found]
        dsimp only
        rw [ownsSession_stale console _ stale]
        split <;> exact ⟨rfl, rfl, rfl⟩

/-- The answer of a sign-out ends only its own session exactly when it is in time. -/
theorem logoutAnswer_endsOwn_iff (index : Nat) (status : Option Nat) :
    EndsOwnSession console (.logoutAnswer index status) ↔
      SignOutInTime console (.logoutAnswer index status) := by
  cases found : console.logouts[index]? with
  | none =>
      refine iff_of_true (endsOwn_of_silent console _ ?_) ?_
      · simp [Console.answered, found]
      · simp [SignOutInTime, found]
  | some sent =>
      have ended : (console.step (.logoutAnswer index status)).session = none := by
        unfold Console.step Console.act Console.logoutAnswer
        dsimp only
        rw [found]
        exact endSession_session _ _
      have reason : (console.step (.logoutAnswer index status)).reason =
          some (Console.signOutReason status) := by
        unfold Console.step Console.act Console.logoutAnswer
        dsimp only
        rw [found]
        exact endSession_reason _ _
      constructor
      · intro owns other asked
        rw [found, Option.some.injEq] at asked
        rw [← asked]
        constructor
        · intro login session
          by_contra order
          have kept := (owns.session sent login found session (Nat.lt_of_not_le order)).1
          rw [ended] at kept
          simp at kept
        · intro instant signedOut order
          rw [← owns.reason sent instant found signedOut order]
          exact reason
      · intro timely
        obtain ⟨session, shown⟩ := timely sent found
        constructor
        · intro other login asked current order
          have same : sent = other := Option.some.inj (found.symm.trans asked)
          have early := session login current
          omega
        · intro other instant asked signedOut order
          have same : sent = other := Option.some.inj (found.symm.trans asked)
          rw [reason]
          exact (shown instant signedOut (same ▸ order)).symm

/-- A step ends only its own session exactly when no sign-out is answered too late. -/
theorem step_endsOwn_iff (input : ConsoleInput) (guards : GuardsHold console) :
    EndsOwnSession console input ↔ SignOutInTime console input := by
  cases input with
  | resumeAnswer index reply =>
      exact iff_of_true (resumeAnswer_endsOwn console index reply guards) trivial
  | verifyAnswer index reply =>
      exact iff_of_true (verifyAnswer_endsOwn console index reply guards) trivial
  | authFetchAnswer index status =>
      exact iff_of_true (authFetchAnswer_endsOwn console index status guards) trivial
  | logoutAnswer index status => exact logoutAnswer_endsOwn_iff console index status
  | _ => exact iff_of_true (endsOwn_of_silent console _ rfl) trivial

end Ownership

/-- Every answer of a run ends only the session it was asked about exactly when every sign-out of
the run is answered in time. -/
theorem endsOwnSession_iff (signOutPending : Bool) (history : List ConsoleInput) :
    (∀ input earlier, input :: earlier <:+ history →
        EndsOwnSession (consoleAfter signOutPending earlier) input) ↔
      Guarded Console.step { signOutPending := signOutPending } SignOutInTime history := by
  rw [guarded_iff_forall]
  have exactly (input : ConsoleInput) (earlier : List ConsoleInput) :
      EndsOwnSession (consoleAfter signOutPending earlier) input ↔
        SignOutInTime (consoleAfter signOutPending earlier) input :=
    step_endsOwn_iff _ input (consoleAfter_guards signOutPending earlier)
  constructor
  · intro owns input earlier suffix
    exact (exactly input earlier).mp (owns input earlier suffix)
  · intro timely input earlier suffix
    exact (exactly input earlier).mpr (timely input earlier suffix)

/-- The operator clicks twice to sign out and signs in again before the second answer. -/
def doubleSignOut : List ConsoleInput :=
  [.resumeAnswer 0 (.live {}), .loginAnswer true, .login, .logoutAnswer 0 (some 200), .logout,
    .logout, .resumeAnswer 0 (.live {}), .loaded]

/-- The answer of the second click takes the console out of the new session. -/
theorem endsOwnSession_fails :
    ¬ EndsOwnSession (consoleAfter false doubleSignOut) (.logoutAnswer 0 (some 401)) := by
  intro owns
  have kept := (owns.session 3 6 (by decide +kernel) (by decide +kernel) (by decide)).2
    (by decide +kernel)
  revert kept
  decide +kernel

end OperationsConsole.Browser
