/-
This file decides in which runs the ledger is quiet after a sign-out.
A read in flight outlives the session, and its answer is drawn or starts the retries again.
-/

import OperationsConsole.Browser.LedgerReads

namespace OperationsConsole.Browser

open Library

/-- The answer brings something to draw in the place of this kind. -/
def LedgerReply.draws {β : Type} (read : LedgerRead) : LedgerReply β → Bool
  | .failed _ => false
  | .data _ _ => true
  | .refused status detail _ => LedgerPage.notYetRefreshed read status detail

namespace LedgerPage

variable {β : Type}

section Law

variable (page : LedgerPage β) (input : LedgerInput β)

/-- No retry waits for a page that is signed out. -/
def NoRetry : Prop := page.console.signedIn = false → page.running = []

/-- A page that is signed out sends no read, draws nothing, and starts no notice. -/
structure QuietStep : Prop where
  requests : (page.step input).requests = page.requests
  drawings : ∀ kind, ((page.step input).view kind).drawings = (page.view kind).drawings
  building : ∀ kind, ((page.step input).view kind).building = true →
    (page.view kind).building = true

def StaysQuiet : Prop := page.console.signedIn = false → page.QuietStep input

/-- A page that is signed out gets no answer to draw for the newest read of a kind. -/
def NoLateAnswer : LedgerInput β → Prop
  | .answer index reply => page.console.signedIn = false →
      ∀ read, page.reads[index]? = some read → page.newestRead read.kind = some read →
        reply.draws read = false
  | _ => True

end Law

section Frames

variable (page : LedgerPage β)

/-- What a step shows, sends, and waits for is unchanged, but for a notice that is taken back. -/
structure Still (later : LedgerPage β) : Prop where
  requests : later.requests = page.requests
  drawings : ∀ kind, (later.view kind).drawings = (page.view kind).drawings
  building : ∀ kind, (later.view kind).building = true → (page.view kind).building = true
  running : ∀ timer ∈ later.running, timer ∈ page.running

theorem Still.refl : page.Still page := ⟨rfl, fun _ => rfl, fun _ held => held, fun _ held => held⟩

/-- What stays still in two steps stays still in both. -/
theorem Still.trans {page middle later : LedgerPage β} (first : page.Still middle)
    (second : middle.Still later) : page.Still later where
  requests := second.requests.trans first.requests
  drawings kind := (second.drawings kind).trans (first.drawings kind)
  building kind held := first.building kind (second.building kind held)
  running timer held := first.running timer (second.running timer held)

/-- A view that keeps its drawings stays still. -/
theorem still_setView (kind : LedgerKind) (view : LedgerView β)
    (drawings : view.drawings = (page.view kind).drawings)
    (building : view.building = true → (page.view kind).building = true) :
    page.Still (page.setView kind view) where
  requests := rfl
  drawings other := by
    change (Function.update page.view kind view other).drawings = _
    by_cases same : other = kind
    · rw [same, Function.update_self, drawings]
    · rw [Function.update_of_ne same]
  building other held := by
    change (Function.update page.view kind view other).building = true at held
    by_cases same : other = kind
    · rw [same, Function.update_self] at held
      rw [same]
      exact building held
    · rwa [Function.update_of_ne same] at held
  running _ held := held

/-- A failure draws nothing. -/
theorem still_ledgerFailed (read : LedgerRead) (message : String) :
    page.Still (page.ledgerFailed read message) := by
  unfold ledgerFailed
  split
  · have settled : page.Still (page.ledgerSetBuilding read.kind false) :=
      still_setView page _ _ rfl fun held => absurd held Bool.false_ne_true
    exact settled.trans (still_setView _ _ _ rfl id)
  · exact Still.refl page

/-- The end of a read draws nothing. -/
theorem still_ledgerDone (read : LedgerRead) : page.Still (page.ledgerDone read) := by
  unfold ledgerDone
  split
  · exact still_setView page _ _ rfl id
  · exact Still.refl page

theorem still_stopLedgerRetries : page.Still page.stopLedgerRetries where
  requests := rfl
  drawings _ := rfl
  building _ held := absurd held Bool.false_ne_true
  running timer held := by
    have third := (List.mem_filter.mp held).1
    have second := (List.mem_filter.mp third).1
    exact (List.mem_filter.mp second).1

/-- The end of a session draws nothing. -/
theorem still_expire (read : LedgerRead) : page.Still (page.expire read) := by
  unfold expire
  split
  · have ended : page.Still { page with console := page.console.endSession "invalid" } :=
      ⟨rfl, fun _ => rfl, fun _ held => held, fun _ held => held⟩
    exact ended.trans (still_stopLedgerRetries _)
  · exact Still.refl page

/-- An answer without anything to draw leaves the page still, and so does a superseded answer. -/
theorem still_settle (read : LedgerRead) (reply : LedgerReply β)
    (plain : page.counts read = true → reply.draws read = false) :
    page.Still (page.settle read reply) := by
  unfold settle
  cases reply with
  | failed message => exact still_ledgerFailed page read message
  | data body rejected =>
      dsimp only
      split
      · rename_i counted
        exact absurd (plain counted) (by simp [LedgerReply.draws])
      · exact Still.refl page
  | refused status detail retryAfter =>
      dsimp only
      split
      · exact (still_expire page read).trans (still_ledgerFailed _ read _)
      · split
        · rename_i waits
          split
          · rename_i counted
            exact absurd (plain counted) (by simpa [LedgerReply.draws] using waits)
          · exact Still.refl page
        · exact still_ledgerFailed page read _

/-- An answer with something to draw for the newest read draws it. -/
theorem drawings_settle (read : LedgerRead) (reply : LedgerReply β)
    (counted : page.counts read = true) (draws : reply.draws read = true) :
    (((page.settle read reply).ledgerDone read).view read.kind).drawings.length =
      (page.view read.kind).drawings.length + 1 := by
  have done : ∀ later : LedgerPage β,
      ((later.ledgerDone read).view read.kind).drawings = (later.view read.kind).drawings :=
    fun later => (still_ledgerDone later read).drawings read.kind
  have failed : ∀ (later : LedgerPage β) message,
      ((later.ledgerFailed read message).view read.kind).drawings =
        (later.view read.kind).drawings :=
    fun later message => (still_ledgerFailed later read message).drawings read.kind
  rw [done]
  unfold settle
  cases reply with
  | failed message => simp [LedgerReply.draws] at draws
  | data body rejected =>
      dsimp only
      rw [if_pos counted]
      cases rejected with
      | none => simp [draw, ledgerSetBuilding, setView]
      | some message =>
          dsimp only
          rw [failed]
          simp [draw, ledgerSetBuilding, setView]
  | refused status detail retryAfter =>
      dsimp only [LedgerReply.draws] at draws
      have other : status ≠ 401 := by
        intro invalid
        rw [invalid] at draws
        simp [notYetRefreshed] at draws
      dsimp only
      rw [if_neg other, if_pos draws, if_pos counted]
      simp [ledgerBuilding, draw, ledgerSetBuilding, setView]

end Frames

section Steps

variable (page : LedgerPage β) (ordered : page.Ordered)

include ordered

/-- Without a late answer, a page that is signed out and waits for no retry stays still. -/
theorem still_step (input : LedgerInput β) (ended : page.console.signedIn = false)
    (idle : page.running = []) (timely : page.NoLateAnswer input) : page.Still (page.step input) := by
  have acted : page.Still (page.act input) := by
    unfold act
    cases input with
    | console input =>
        have later : page.Still { page with console := page.console.step input } :=
          ⟨rfl, fun _ => rfl, fun _ held => held, fun _ held => held⟩
        dsimp only
        split
        · exact later.trans (still_stopLedgerRetries _)
        · exact later
    | read kind =>
        dsimp only
        rw [ended, if_neg Bool.false_ne_true]
        exact Still.refl page
    | answer index reply =>
        dsimp only
        unfold answer
        split
        · exact Still.refl page
        · rename_i read found
          have answered : page.Still { page with reads := page.reads.eraseIdx index } :=
            ⟨rfl, fun _ => rfl, fun _ held => held, fun _ held => held⟩
          have asked := ordered.flight read (List.mem_of_getElem? found)
          have plain : page.counts read = true → reply.draws read = false := by
            intro counted
            exact timely ended read found ((counts_iff page ordered read asked).mp counted)
          exact (answered.trans (still_settle _ read reply plain)).trans (still_ledgerDone _ read)
    | retry index =>
        dsimp only
        unfold retry
        rw [idle, List.getElem?_nil]
        exact Still.refl page
  exact ⟨acted.requests, acted.drawings, acted.building, acted.running⟩

omit ordered in
theorem ledgerFailed_kept (read : LedgerRead) (message : String) :
    (page.ledgerFailed read message).console = page.console ∧
      (page.ledgerFailed read message).running = page.running := by
  unfold ledgerFailed
  split <;> exact ⟨rfl, rfl⟩

omit ordered in
theorem ledgerDone_kept (read : LedgerRead) : (page.ledgerDone read).console = page.console ∧
    (page.ledgerDone read).running = page.running := by
  unfold ledgerDone
  split <;> exact ⟨rfl, rfl⟩

/-- An answer that signs a page out has stopped its retries. -/
theorem noRetry_settle (read : LedgerRead) (reply : LedgerReply β)
    (signedIn : page.console.signedIn = true)
    (ended : (page.settle read reply).console.signedIn = false) :
    (page.settle read reply).running = [] := by
  have absurdly : page.console.signedIn ≠ false := by
    rw [signedIn]
    decide
  unfold settle at ended ⊢
  cases reply with
  | failed message =>
      dsimp only at ended
      rw [(ledgerFailed_kept page read message).1] at ended
      exact absurd ended absurdly
  | data body rejected =>
      dsimp only at ended
      split at ended
      · cases rejected with
        | none => exact absurd ended absurdly
        | some message =>
            dsimp only at ended
            rw [(ledgerFailed_kept _ read message).1] at ended
            exact absurd ended absurdly
      · exact absurd ended absurdly
  | refused status detail retryAfter =>
      dsimp only at ended ⊢
      by_cases invalid : status = 401
      · rw [if_pos invalid, (ledgerFailed_kept _ read _).1] at ended
        rw [if_pos invalid, (ledgerFailed_kept _ read _).2]
        unfold expire at ended ⊢
        by_cases owned : page.console.ownsSession read.session = true
        · rw [if_pos owned]
          exact running_stopLedgerRetries _
            (ordered.of_shown page _ rfl rfl rfl rfl rfl fun _ => rfl)
        · rw [if_neg owned] at ended
          exact absurd ended absurdly
      · rw [if_neg invalid] at ended
        split at ended
        · split at ended <;> exact absurd ended absurdly
        · rw [(ledgerFailed_kept page read _).1] at ended
          exact absurd ended absurdly

/-- A page that was signed in and is signed out by a step has stopped its retries. -/
theorem noRetry_signOut (input : LedgerInput β) (signedIn : page.console.signedIn = true)
    (ended : (page.step input).console.signedIn = false) : (page.step input).running = [] := by
  change (page.act input).console.signedIn = false at ended
  change (page.act input).running = []
  unfold act at ended ⊢
  cases input with
  | console input =>
      dsimp only at ended ⊢
      have shown : page.console.showsLogin input = true := by
        apply showsLogin_of_signedOut page.console input signedIn
        split at ended <;> exact ended
      rw [if_pos shown]
      exact running_stopLedgerRetries _ (ordered.of_shown page _ rfl rfl rfl rfl rfl fun _ => rfl)
  | read kind =>
      dsimp only at ended
      rw [if_pos signedIn] at ended
      exact absurd (signedIn.symm.trans ended) (by decide)
  | retry index =>
      dsimp only at ended
      unfold retry at ended
      split at ended <;> exact absurd (signedIn.symm.trans ended) (by decide)
  | answer index reply =>
      dsimp only at ended ⊢
      unfold answer at ended ⊢
      cases found : page.reads[index]? with
      | none =>
          rw [found] at ended
          exact absurd (signedIn.symm.trans ended) (by decide)
      | some read =>
          rw [found] at ended
          dsimp only at ended ⊢
          rw [(ledgerDone_kept _ read).1] at ended
          rw [(ledgerDone_kept _ read).2]
          exact noRetry_settle _ (ordered_answered page ordered index) read reply signedIn ended

/-- A step keeps the quiet of a page exactly when it brings no late answer. -/
theorem quiet_step_iff (input : LedgerInput β) (before : page.NoRetry) :
    (page.step input).NoRetry ∧ page.StaysQuiet input ↔ page.NoLateAnswer input := by
  constructor
  · rintro ⟨_, quiet⟩
    cases input with
    | answer index reply =>
        intro ended read found newest
        rw [← Bool.not_eq_true]
        intro draws
        have asked := ordered.flight read (List.mem_of_getElem? found)
        have counted := (counts_iff page ordered read asked).mpr newest
        have kept := (quiet ended).drawings read.kind
        change ((page.answer index reply).view read.kind).drawings = _ at kept
        unfold answer at kept
        rw [found] at kept
        have longer := drawings_settle { page with reads := page.reads.eraseIdx index } read reply
          counted draws
        rw [congrArg List.length kept] at longer
        exact absurd longer (Nat.succ_ne_self _).symm
    | _ => trivial
  · intro timely
    constructor
    · intro ended
      cases signedIn : page.console.signedIn with
      | true => exact noRetry_signOut page ordered input signedIn ended
      | false =>
          have still := still_step page ordered input signedIn (before signedIn) timely
          have none_left : ∀ timer, timer ∉ (page.step input).running := by
            intro timer member
            have old := still.running timer member
            rw [before signedIn] at old
            exact absurd old List.not_mem_nil
          exact List.eq_nil_iff_forall_not_mem.mpr none_left
    · intro ended
      have still := still_step page ordered input ended (before ended) timely
      exact ⟨still.requests, still.drawings, still.building⟩

end Steps

/-- From a sign-out up to the next sign-in the ledger is quiet throughout a run exactly when no
answer to draw arrives for the newest read of a kind in that time. -/
theorem ledgerQuiet_iff (signOutPending : Bool) (history : List (LedgerInput β)) :
    ((∀ part, part <:+ history → (ledgerAfter signOutPending part).NoRetry) ∧
      ∀ input part, input :: part <:+ history →
        (ledgerAfter signOutPending part).StaysQuiet input) ↔
      Guarded step { console := { signOutPending := signOutPending } } NoLateAnswer history := by
  apply guarded_iff step _ NoLateAnswer NoRetry StaysQuiet
  · intro _
    rfl
  · intro input earlier before
    exact quiet_step_iff _ (ledgerAfter_ordered signOutPending earlier) input before

/-- The operator opens the ledger, signs out, and then the answer of the density arrives. -/
def lateAnswer : List (LedgerInput Unit) :=
  [.answer 0 (.refused 503 (some ledgerNotRefreshed) .absent),
    .console (.logoutAnswer 0 (some 200)), .console .logout, .read .density,
    .console (.resumeAnswer 0 (.live {})), .console .loaded]

/-- A late answer starts a retry on a page that is signed out, and the retry sends a read. -/
theorem ledgerQuiet_fails : ¬ (ledgerAfter false lateAnswer).NoRetry ∧
    ¬ (ledgerAfter false lateAnswer).StaysQuiet (.retry 0) := by
  have ended : (ledgerAfter false lateAnswer).console.signedIn = false := by decide +kernel
  constructor
  · intro quiet
    have waits : (ledgerAfter false lateAnswer).running.length = 1 := by decide +kernel
    rw [quiet ended] at waits
    simp at waits
  · intro quiet
    have sent : ((ledgerAfter false lateAnswer).step (.retry 0)).requests.length = 2 := by
      decide +kernel
    have before : (ledgerAfter false lateAnswer).requests.length = 1 := by decide +kernel
    rw [(quiet ended).requests, before] at sent
    exact absurd sent (by decide)

end LedgerPage

end OperationsConsole.Browser
