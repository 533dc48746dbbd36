/-
This file proves that only the newest ledger read of a kind has an effect on its place and timer.
The end of the session stops all the retries and takes back what is being built, whichever read finds
it, and it draws, reports and hides nothing.
-/

import Mathlib.Data.List.Nodup
import OperationsConsole.Browser.Ledger

namespace OperationsConsole.Browser

open Library

namespace LedgerPage

variable {β : Type}

section Law

variable (page : LedgerPage β) (input : LedgerInput β)

/-- A step sends a read of this kind. -/
def sends (kind : LedgerKind) : LedgerInput β → Prop
  | .read asked => page.console.signedIn = true ∧ asked = kind
  | .retry index => ∃ timer, page.running[index]? = some timer ∧ timer.kind = kind
  | _ => False

/-- A step answers the read of this kind that was sent last. -/
def answersNewest (kind : LedgerKind) : LedgerInput β → Prop
  | .answer index _ => ∃ read, page.reads[index]? = some read ∧ read.kind = kind ∧
      page.newestRead kind = some read
  | _ => False

/-- A step of the session shows the login form. -/
def signsOut : LedgerInput β → Bool
  | .console input => page.console.showsLogin input
  | _ => false

/-- A step shows the login form, or it answers a read of the session with its end. -/
def endsSession : LedgerInput β → Bool
  | .console input => page.console.showsLogin input
  | .answer index (.refused status _ _) =>
      status = 401 && page.reads[index]?.any fun read => page.console.ownsSession read.session
  | _ => false

/-- The reads of one kind leave the other kinds alone. -/
structure KindFrame (later : LedgerPage β) (kind : LedgerKind) : Prop where
  view : ∀ other ≠ kind, later.view other = page.view other
  retryTimers : ∀ other ≠ kind, later.retryTimers other = page.retryTimers other
  pending : ∀ other ≠ kind, later.pending other = page.pending other

/-- A kind is left alone, or its retry is stopped and its building taken back, and nothing else. -/
structure LeftAlone (takesBack : Bool) (later : LedgerPage β) (kind : LedgerKind) : Prop where
  view : later.view kind =
    { page.view kind with building := (page.view kind).building && !takesBack }
  retryTimers : later.retryTimers kind = if takesBack then none else page.retryTimers kind
  pending : later.pending kind = if takesBack then [] else page.pending kind

/-- A step changes the place and the timer of a kind only by sending a read, which clears them, or by
the answer of the newest read, which ends its wait with its data, an error or a retry. A step may take
back the retries and the building of every kind. -/
structure NewestReadWins (takesBack : Bool) : Prop where
  asked : ∀ kind, page.sends kind input → (page.step input).pending kind = [] ∧
    (page.step input).view kind =
      { page.view kind with
        generation := (page.view kind).generation + 1
        loading := true
        error := none }
  settled : ∀ kind, ¬ page.sends kind input → ¬ page.answersNewest kind input →
    page.LeftAlone takesBack (page.step input) kind
  apart : ∀ kind, page.sends kind input ∨ page.answersNewest kind input →
    ∀ other ≠ kind, page.LeftAlone takesBack (page.step input) other
  shown : ∀ index reply read, input = .answer index reply → page.reads[index]? = some read →
    page.newestRead read.kind = some read → ((page.step input).view read.kind).loading = false ∧
      ((∃ body, reply = .data body none ∧ ((page.step input).view read.kind).drawings =
          ⟨read.sent, some body⟩ :: (page.view read.kind).drawings) ∨
        ((page.step input).view read.kind).error.isSome = true ∨
        ((page.step input).view read.kind).building = true)

/-- At most one timer of a kind is running, and the newest read of the kind set it. -/
def SingleRetry : Prop := ∀ kind, (page.pending kind).length ≤ 1 ∧
  ∀ timer ∈ page.pending kind, ∃ read, page.newestRead kind = some read ∧ read.sent = timer.setBy

end Law

/-- The newest read wins in every run, where these steps take back the retries and the building. -/
def NewestReadLaw (β : Type) (takesBack : LedgerPage β → LedgerInput β → Bool) : Prop :=
  ∀ signOutPending history,
    (ledgerAfter (β := β) signOutPending history).SingleRetry ∧
      ∀ input, (ledgerAfter signOutPending history).NewestReadWins input
        (takesBack (ledgerAfter signOutPending history) input)

/-- The timers belong to the newest reads, and a read counts exactly while it is the newest. -/
structure Ordered (page : LedgerPage β) : Prop where
  held : ∀ timer ∈ page.running, page.retryTimers timer.kind = some timer.id
  fresh : ∀ kind id, page.retryTimers kind = some id → id < page.timers
  distinct : ∀ first second id, page.retryTimers first = some id →
    page.retryTimers second = some id → first = second
  single : page.running.Pairwise fun first second => first.kind ≠ second.kind
  setBy : ∀ timer ∈ page.running, ∃ read, page.newestRead timer.kind = some read ∧
    read.sent = timer.setBy ∧ read ∉ page.reads
  newest : ∀ kind read, page.newestRead kind = some read →
    read.generation = (page.view kind).generation
  current : ∀ read ∈ page.requests, read.generation = (page.view read.kind).generation →
    page.newestRead read.kind = some read
  bound : ∀ read ∈ page.requests, read.generation ≤ (page.view read.kind).generation
  flight : ∀ read ∈ page.reads, read ∈ page.requests
  once : page.reads.Nodup

section Steps

variable (page : LedgerPage β) (ordered : page.Ordered)

/-- The read that is sent next for a kind. -/
def nextRead (page : LedgerPage β) (kind : LedgerKind) : LedgerRead :=
  ⟨kind, (page.view kind).generation + 1, page.console.generation, page.steps⟩

/-- A change of what is shown keeps the order of the reads. -/
theorem Ordered.of_shown (later : LedgerPage β) (ordered : page.Ordered)
    (running : later.running = page.running) (retryTimers : later.retryTimers = page.retryTimers)
    (timers : later.timers = page.timers) (requests : later.requests = page.requests)
    (reads : later.reads = page.reads)
    (generation : ∀ kind, (later.view kind).generation = (page.view kind).generation) :
    later.Ordered := by
  have newestRead : later.newestRead = page.newestRead := by
    funext kind
    unfold LedgerPage.newestRead
    rw [requests]
  constructor
  · rw [running, retryTimers]
    exact ordered.held
  · rw [retryTimers, timers]
    exact ordered.fresh
  · rw [retryTimers]
    exact ordered.distinct
  · rw [running]
    exact ordered.single
  · rw [running, newestRead, reads]
    exact ordered.setBy
  · intro kind read newest
    rw [generation]
    exact ordered.newest kind read (newestRead ▸ newest)
  · intro read member same
    rw [newestRead]
    rw [generation] at same
    exact ordered.current read (requests ▸ member) same
  · intro read member
    rw [generation]
    exact ordered.bound read (requests ▸ member)
  · rw [reads, requests]
    exact ordered.flight
  · rw [reads]
    exact ordered.once

include ordered

/-- A read in flight counts exactly if it is the newest of its kind. -/
theorem counts_iff (read : LedgerRead) (flight : read ∈ page.requests) :
    page.counts read = true ↔ page.newestRead read.kind = some read := by
  unfold counts
  rw [decide_eq_true_eq]
  constructor
  · intro same
    exact ordered.current read flight same.symm
  · intro newest
    exact (ordered.newest read.kind read newest).symm

/-- The retries of one kind are stopped. -/
theorem running_ledgerStopRetry (kind : LedgerKind) : (page.ledgerStopRetry kind).running =
    page.running.filter fun timer => timer.kind ≠ kind := by
  apply List.filter_congr
  intro timer member
  rw [decide_eq_decide]
  have held := ordered.held timer member
  constructor
  · intro differs same
    rw [same] at held
    exact differs held
  · intro differs same
    exact differs (ordered.distinct timer.kind kind timer.id held same)

theorem ordered_ledgerStopRetry (kind : LedgerKind) : (page.ledgerStopRetry kind).Ordered := by
  have kept : ∀ other id, (page.ledgerStopRetry kind).retryTimers other = some id →
      page.retryTimers other = some id := by
    intro other id stored
    change Function.update page.retryTimers kind none other = some id at stored
    by_cases same : other = kind
    · rw [same, Function.update_self] at stored
      exact absurd stored (by simp)
    · rwa [Function.update_of_ne same] at stored
  have fewer : ∀ timer ∈ (page.ledgerStopRetry kind).running,
      timer ∈ page.running ∧ timer.kind ≠ kind := by
    intro timer member
    rw [running_ledgerStopRetry page ordered, List.mem_filter, decide_eq_true_eq] at member
    exact member
  constructor
  · intro timer member
    obtain ⟨inside, other⟩ := fewer timer member
    change Function.update page.retryTimers kind none timer.kind = some timer.id
    rw [Function.update_of_ne other]
    exact ordered.held timer inside
  · intro other id stored
    exact ordered.fresh other id (kept other id stored)
  · intro first second id one two
    exact ordered.distinct first second id (kept first id one) (kept second id two)
  · rw [running_ledgerStopRetry page ordered]
    exact ordered.single.filter _
  · intro timer member
    exact ordered.setBy timer (fewer timer member).1
  · exact ordered.newest
  · exact ordered.current
  · exact ordered.bound
  · exact ordered.flight
  · exact ordered.once

/-- No timer is running after the retries are stopped. -/
theorem running_stopLedgerRetries : page.stopLedgerRetries.running = [] := by
  have first := ordered_ledgerStopRetry page ordered .density
  have second := ordered_ledgerStopRetry _ first .works
  change (((page.ledgerStopRetry .density).ledgerStopRetry .works).ledgerStopRetry .work).running
    = []
  rw [running_ledgerStopRetry _ second, running_ledgerStopRetry _ first,
    running_ledgerStopRetry _ ordered, List.filter_filter, List.filter_filter,
    List.filter_eq_nil_iff]
  intro timer _
  cases timer.kind <;> decide

theorem ordered_stopLedgerRetries : page.stopLedgerRetries.Ordered := by
  have first := ordered_ledgerStopRetry page ordered .density
  have second := ordered_ledgerStopRetry _ first .works
  have third := ordered_ledgerStopRetry _ second .work
  exact third.of_shown _ _ rfl rfl rfl rfl rfl fun _ => rfl

omit ordered in
/-- A new read is the newest request. -/
theorem requests_ledgerRead (kind : LedgerKind) :
    (page.ledgerRead kind).requests = page.nextRead kind :: page.requests := rfl

omit ordered in
/-- A new read is in flight after the reads before it. -/
theorem reads_ledgerRead (kind : LedgerKind) :
    (page.ledgerRead kind).reads = page.reads ++ [page.nextRead kind] := rfl

omit ordered in
/-- A read that is sent becomes the newest of its kind. -/
theorem newestRead_ledgerRead_self (kind : LedgerKind) :
    (page.ledgerRead kind).newestRead kind = some (page.nextRead kind) := by
  unfold newestRead
  rw [requests_ledgerRead, List.find?_cons_of_pos (by simp [nextRead])]

omit ordered in
/-- A read leaves the newest read of every other kind. -/
theorem newestRead_ledgerRead_of_ne (kind asked : LedgerKind) (differs : asked ≠ kind) :
    (page.ledgerRead kind).newestRead asked = page.newestRead asked := by
  unfold newestRead
  rw [requests_ledgerRead, List.find?_cons_of_neg]
  rw [decide_eq_true_eq]
  exact Ne.symm differs

omit ordered in
/-- A read takes the next generation of its kind. -/
theorem generation_ledgerRead_self (kind : LedgerKind) :
    ((page.ledgerRead kind).view kind).generation = (page.view kind).generation + 1 := by
  change (Function.update page.view kind _ kind).generation = _
  rw [Function.update_self]

omit ordered in
/-- A read leaves the view of every other kind. -/
theorem view_ledgerRead_of_ne (kind asked : LedgerKind) (differs : asked ≠ kind) :
    (page.ledgerRead kind).view asked = page.view asked :=
  Function.update_of_ne differs _ _

/-- No read was sent twice. -/
theorem nextRead_unsent (kind : LedgerKind) : page.nextRead kind ∉ page.requests := by
  intro member
  have bound := ordered.bound _ member
  change (page.view kind).generation + 1 ≤ (page.view kind).generation at bound
  omega

/-- The timers that run on belong to the other kinds. -/
theorem setBy_ledgerRead (kind : LedgerKind) (timer : RetryTimer)
    (member : timer ∈ (page.ledgerStopRetry kind).running) :
    ∃ read, (page.ledgerRead kind).newestRead timer.kind = some read ∧
      read.sent = timer.setBy ∧ read ∉ (page.ledgerRead kind).reads := by
  rw [running_ledgerStopRetry page ordered, List.mem_filter, decide_eq_true_eq] at member
  obtain ⟨running, other⟩ := member
  obtain ⟨read, newest, setter, answered⟩ := ordered.setBy timer running
  refine ⟨read, (newestRead_ledgerRead_of_ne page kind _ other).trans newest, setter, ?_⟩
  rw [reads_ledgerRead, List.mem_append, List.mem_singleton, not_or]
  refine ⟨answered, ?_⟩
  intro same
  have named := List.find?_some newest
  rw [decide_eq_true_eq, same] at named
  exact other named.symm

/-- The newest read of a kind has the generation of the kind's view. -/
theorem newest_ledgerRead (kind asked : LedgerKind) (read : LedgerRead)
    (newest : (page.ledgerRead kind).newestRead asked = some read) :
    read.generation = ((page.ledgerRead kind).view asked).generation := by
  by_cases same : asked = kind
  · rw [same] at newest ⊢
    rw [newestRead_ledgerRead_self, Option.some.injEq] at newest
    rw [generation_ledgerRead_self, ← newest]
    rfl
  · rw [newestRead_ledgerRead_of_ne page kind asked same] at newest
    rw [view_ledgerRead_of_ne page kind asked same]
    exact ordered.newest asked read newest

/-- No earlier read of the kind has the generation of the read that is sent. -/
theorem current_ledgerRead (kind : LedgerKind) (read : LedgerRead)
    (member : read ∈ (page.ledgerRead kind).requests)
    (same : read.generation = ((page.ledgerRead kind).view read.kind).generation) :
    (page.ledgerRead kind).newestRead read.kind = some read := by
  rw [requests_ledgerRead, List.mem_cons] at member
  by_cases asked : read.kind = kind
  · rcases member with fresh | old
    · rw [fresh]
      exact newestRead_ledgerRead_self page kind
    · have bound := ordered.bound read old
      rw [asked] at bound same
      rw [generation_ledgerRead_self] at same
      omega
  · rw [newestRead_ledgerRead_of_ne page kind _ asked]
    rw [view_ledgerRead_of_ne page kind _ asked] at same
    rcases member with fresh | old
    · exact absurd (by rw [fresh]; rfl) asked
    · exact ordered.current read old same

/-- No read has a later generation than the view of its kind. -/
theorem bound_ledgerRead (kind : LedgerKind) (read : LedgerRead)
    (member : read ∈ (page.ledgerRead kind).requests) :
    read.generation ≤ ((page.ledgerRead kind).view read.kind).generation := by
  rw [requests_ledgerRead, List.mem_cons] at member
  rcases member with fresh | old
  · rw [fresh]
    exact (generation_ledgerRead_self page kind).ge
  · have bound := ordered.bound read old
    by_cases asked : read.kind = kind
    · rw [asked] at bound ⊢
      rw [generation_ledgerRead_self]
      omega
    · rw [view_ledgerRead_of_ne page kind _ asked]
      exact bound

/-- A new read keeps the order of the generations. -/
theorem ordered_ledgerRead (kind : LedgerKind) : (page.ledgerRead kind).Ordered := by
  have stopped := ordered_ledgerStopRetry page ordered kind
  constructor
  · exact stopped.held
  · exact stopped.fresh
  · exact stopped.distinct
  · exact stopped.single
  · exact setBy_ledgerRead page ordered kind
  · exact newest_ledgerRead page ordered kind
  · exact current_ledgerRead page ordered kind
  · exact bound_ledgerRead page ordered kind
  · intro read member
    rw [reads_ledgerRead, List.mem_append, List.mem_singleton] at member
    rw [requests_ledgerRead, List.mem_cons]
    rcases member with old | fresh
    · exact .inr (ordered.flight read old)
    · exact .inl fresh
  · rw [reads_ledgerRead, List.nodup_append]
    refine ⟨ordered.once, List.pairwise_singleton _ _, ?_⟩
    intro first old second fresh same
    rw [List.mem_singleton] at fresh
    exact nextRead_unsent page ordered kind (ordered.flight _ (fresh ▸ same ▸ old))

omit ordered in
/-- A ledger that is building starts the next timer for its kind. -/
theorem retryTimers_ledgerBuilding_self (read : LedgerRead) (retryAfter : RetryAfter) :
    (page.ledgerBuilding read retryAfter).retryTimers read.kind = some page.timers :=
  Function.update_self _ _ _

omit ordered in
theorem retryTimers_ledgerBuilding_of_ne (read : LedgerRead) (retryAfter : RetryAfter)
    (kind : LedgerKind) (differs : kind ≠ read.kind) :
    (page.ledgerBuilding read retryAfter).retryTimers kind = page.retryTimers kind :=
  Function.update_of_ne differs _ _

omit ordered in
theorem generation_ledgerBuilding (read : LedgerRead) (retryAfter : RetryAfter)
    (kind : LedgerKind) : ((page.ledgerBuilding read retryAfter).view kind).generation =
      (page.view kind).generation := by
  by_cases same : kind = read.kind
  · rw [same]
    simp [ledgerBuilding, draw, ledgerSetBuilding, setView]
  · simp [ledgerBuilding, draw, ledgerSetBuilding, setView, Function.update_of_ne same]

/-- Every stored timer is older than the timers that start later. -/
theorem fresh_ledgerBuilding (read : LedgerRead) (retryAfter : RetryAfter) (kind : LedgerKind)
    (id : Nat) (stored : (page.ledgerBuilding read retryAfter).retryTimers kind = some id) :
    id < page.timers + 1 := by
  by_cases same : kind = read.kind
  · rw [same, retryTimers_ledgerBuilding_self, Option.some.injEq] at stored
    omega
  · rw [retryTimers_ledgerBuilding_of_ne page read retryAfter kind same] at stored
    exact (ordered.fresh kind id stored).trans (Nat.lt_succ_self _)

/-- The timer that is set has a number no other kind has stored. -/
theorem distinct_ledgerBuilding (read : LedgerRead) (retryAfter : RetryAfter)
    (first second : LedgerKind) (id : Nat)
    (one : (page.ledgerBuilding read retryAfter).retryTimers first = some id)
    (two : (page.ledgerBuilding read retryAfter).retryTimers second = some id) :
    first = second := by
  have other := retryTimers_ledgerBuilding_of_ne page read retryAfter
  by_cases left : first = read.kind
  · by_cases right : second = read.kind
    · rw [left, right]
    · rw [left, retryTimers_ledgerBuilding_self, Option.some.injEq] at one
      rw [other second right] at two
      have early := ordered.fresh second id two
      omega
  · rw [other first left] at one
    by_cases right : second = read.kind
    · rw [right, retryTimers_ledgerBuilding_self, Option.some.injEq] at two
      have early := ordered.fresh first id one
      omega
    · rw [other second right] at two
      exact ordered.distinct first second id one two

/-- The newest read, once it is answered, may set a timer. -/
theorem ordered_ledgerBuilding (read : LedgerRead) (retryAfter : RetryAfter)
    (newest : page.newestRead read.kind = some read) (answered : read ∉ page.reads)
    (idle : ∀ timer ∈ page.running, timer.kind ≠ read.kind) :
    (page.ledgerBuilding read retryAfter).Ordered := by
  let timer : RetryTimer := ⟨page.timers, read.kind, read.sent, ledgerRetryDelay retryAfter⟩
  have running : (page.ledgerBuilding read retryAfter).running = page.running ++ [timer] := rfl
  have generation := generation_ledgerBuilding page read retryAfter
  constructor
  · intro other member
    rw [running, List.mem_append, List.mem_singleton] at member
    rcases member with old | fresh
    · rw [retryTimers_ledgerBuilding_of_ne page read retryAfter _ (idle other old)]
      exact ordered.held other old
    · rw [fresh]
      exact retryTimers_ledgerBuilding_self page read retryAfter
  · exact fresh_ledgerBuilding page ordered read retryAfter
  · exact distinct_ledgerBuilding page ordered read retryAfter
  · rw [running, List.pairwise_append]
    refine ⟨ordered.single, List.pairwise_singleton _ _, ?_⟩
    intro first old second fresh
    rw [List.mem_singleton] at fresh
    rw [fresh]
    exact idle first old
  · intro other member
    rw [running, List.mem_append, List.mem_singleton] at member
    rcases member with old | fresh
    · exact ordered.setBy other old
    · rw [fresh]
      exact ⟨read, newest, rfl, answered⟩
  · intro kind asked found
    rw [generation]
    exact ordered.newest kind asked found
  · intro asked member same
    rw [generation] at same
    exact ordered.current asked member same
  · intro asked member
    rw [generation]
    exact ordered.bound asked member
  · exact ordered.flight
  · exact ordered.once

end Steps

section Frames

variable (page : LedgerPage β)

theorem KindFrame.refl (kind : LedgerKind) : page.KindFrame page kind :=
  ⟨fun _ _ => rfl, fun _ _ => rfl, fun _ _ => rfl⟩

/-- What two steps leave unchanged, both together leave unchanged. -/
theorem KindFrame.trans {page middle later : LedgerPage β} {kind : LedgerKind}
    (first : page.KindFrame middle kind) (second : middle.KindFrame later kind) :
    page.KindFrame later kind where
  view other differs := (second.view other differs).trans (first.view other differs)
  retryTimers other differs :=
    (second.retryTimers other differs).trans (first.retryTimers other differs)
  pending other differs := (second.pending other differs).trans (first.pending other differs)

theorem frame_setView (kind : LedgerKind) (view : LedgerView β) :
    page.KindFrame (page.setView kind view) kind where
  view _ differs := Function.update_of_ne differs _ _
  retryTimers _ _ := rfl
  pending _ _ := rfl

/-- A read touches the view and the timer of its kind only. -/
theorem frame_ledgerRead (ordered : page.Ordered) (kind : LedgerKind) :
    page.KindFrame (page.ledgerRead kind) kind where
  view _ differs := Function.update_of_ne differs _ _
  retryTimers _ differs := Function.update_of_ne differs _ _
  pending other differs := by
    change (page.ledgerStopRetry kind).running.filter _ = page.running.filter _
    rw [running_ledgerStopRetry page ordered, List.filter_filter]
    apply List.filter_congr
    intro timer _
    by_cases same : timer.kind = other
    · simp [same, differs]
    · simp [same]

/-- A failure touches the view of its kind only. -/
theorem frame_ledgerFailed (read : LedgerRead) (message : String) :
    page.KindFrame (page.ledgerFailed read message) read.kind := by
  unfold ledgerFailed
  split
  · exact (frame_setView page _ _).trans (frame_setView _ _ _)
  · exact KindFrame.refl page read.kind

/-- The end of a read touches the view of its kind only. -/
theorem frame_ledgerDone (read : LedgerRead) :
    page.KindFrame (page.ledgerDone read) read.kind := by
  unfold ledgerDone
  split
  · exact frame_setView page _ _
  · exact KindFrame.refl page read.kind

/-- A ledger that is building touches the view and the timer of its kind only. -/
theorem frame_ledgerBuilding (read : LedgerRead) (retryAfter : RetryAfter) :
    page.KindFrame (page.ledgerBuilding read retryAfter) read.kind where
  view other differs :=
    ((frame_setView page _ _).trans (frame_setView _ _ _)).view other differs
  retryTimers _ differs := Function.update_of_ne differs _ _
  pending other differs := by
    change (page.running ++ [_]).filter _ = page.running.filter _
    rw [List.filter_append]
    have own : read.kind ≠ other := fun same => differs same.symm
    simp [own]

/-- What the end of the session leaves before an answer is settled. -/
def expired (read : LedgerRead) : LedgerReply β → LedgerPage β
  | .refused status _ _ => if status = 401 then page.expire read else page
  | _ => page

/-- Apart from the end of the session, an answer leaves the other kinds alone. -/
theorem frame_settle (read : LedgerRead) (reply : LedgerReply β) :
    (page.expired read reply).KindFrame (page.settle read reply) read.kind := by
  unfold settle expired
  cases reply with
  | failed message => exact frame_ledgerFailed page read message
  | data body rejected =>
      dsimp only
      split
      · have drawn : page.KindFrame ((page.ledgerSetBuilding read.kind false).draw read.kind
            ⟨read.sent, some body⟩) read.kind :=
          (frame_setView page _ _).trans (frame_setView _ _ _)
        cases rejected with
        | none => exact drawn
        | some message => exact drawn.trans (frame_ledgerFailed _ read message)
      · exact KindFrame.refl page read.kind
  | refused status detail retryAfter =>
      dsimp only
      by_cases invalid : status = 401
      · rw [if_pos invalid, if_pos invalid]
        exact frame_ledgerFailed _ read _
      · rw [if_neg invalid, if_neg invalid]
        split
        · split
          · exact frame_ledgerBuilding page read retryAfter
          · exact KindFrame.refl page read.kind
        · exact frame_ledgerFailed page read _

/-- The end of the session supersedes no read. -/
theorem counts_expired (read : LedgerRead) (reply : LedgerReply β) :
    (page.expired read reply).counts read = page.counts read := by
  have kept : (page.expire read).counts read = page.counts read := by
    unfold expire
    split <;> rfl
  unfold expired
  split
  · split
    · exact kept
    · rfl
  · rfl

/-- Apart from the end of the session, a superseded answer changes nothing. -/
theorem settle_superseded (read : LedgerRead) (reply : LedgerReply β)
    (superseded : page.counts read = false) :
    (page.settle read reply).ledgerDone read = page.expired read reply := by
  have late : ¬ (page.expired read reply).counts read = true := by
    rw [counts_expired, superseded]
    exact Bool.false_ne_true
  have settled : page.settle read reply = page.expired read reply := by
    unfold settle expired ledgerFailed at *
    cases reply with
    | failed message => exact if_neg late
    | data body rejected => exact if_neg late
    | refused status detail retryAfter =>
        dsimp only at late ⊢
        by_cases invalid : status = 401
        · rw [if_pos invalid] at late ⊢
          rw [if_pos invalid]
          exact if_neg late
        · rw [if_neg invalid] at late ⊢
          rw [if_neg invalid, if_neg late, if_neg late, ite_self]
  rw [settled]
  exact if_neg late

theorem view_setView (kind : LedgerKind) (view : LedgerView β) :
    (page.setView kind view).view kind = view := Function.update_self _ _ _

theorem view_ledgerSetBuilding (kind : LedgerKind) (building : Bool) :
    (page.ledgerSetBuilding kind building).view kind =
      { page.view kind with building := building } := view_setView page kind _

/-- The end of a read that counts hides the spinner. -/
theorem view_ledgerDone (read : LedgerRead) (counted : page.counts read = true) :
    (page.ledgerDone read).view read.kind = { page.view read.kind with loading := false } := by
  unfold ledgerDone
  rw [if_pos counted]
  exact view_setView page read.kind _

/-- The failure of a read that counts shows its message in the place of the notice. -/
theorem view_ledgerFailed (read : LedgerRead) (message : String) (counted : page.counts read = true) :
    (page.ledgerFailed read message).view read.kind =
      { page.view read.kind with building := false, error := some message } := by
  unfold ledgerFailed
  rw [if_pos counted]
  dsimp only
  rw [view_setView, view_ledgerSetBuilding]

/-- An answer that counts shows its data, or an error, or that the ledger is being built. -/
structure Shown (later : LedgerPage β) (read : LedgerRead) (reply : LedgerReply β) : Prop where
  counts : later.counts read = true
  shown : (∃ body, reply = .data body none ∧ (later.view read.kind).drawings =
      ⟨read.sent, some body⟩ :: (page.view read.kind).drawings) ∨
    (later.view read.kind).error.isSome = true ∨ (later.view read.kind).building = true

/-- A read that counts shows its failure. -/
theorem shown_ledgerFailed (later : LedgerPage β) (read : LedgerRead) (reply : LedgerReply β)
    (message : String) (counted : later.counts read = true) :
    page.Shown (later.ledgerFailed read message) read reply := by
  have view := view_ledgerFailed later read message counted
  refine ⟨?_, .inr (.inl ?_)⟩
  · unfold LedgerPage.counts at counted ⊢
    rw [view]
    exact counted
  · rw [view]
    rfl

/-- A read that counts shows its own answer. -/
theorem shown_settle (read : LedgerRead) (reply : LedgerReply β)
    (counted : page.counts read = true) : page.Shown (page.settle read reply) read reply := by
  unfold settle
  cases reply with
  | failed message => exact shown_ledgerFailed page page read _ message counted
  | data body rejected =>
      let drawn := (page.ledgerSetBuilding read.kind false).draw read.kind ⟨read.sent, some body⟩
      have view : drawn.view read.kind =
          { page.view read.kind with
            building := false
            drawings := ⟨read.sent, some body⟩ :: (page.view read.kind).drawings } := by
        change ((page.ledgerSetBuilding read.kind false).draw _ _).view read.kind = _
        rw [draw, view_setView, view_ledgerSetBuilding]
      have current : drawn.counts read = true := by
        unfold LedgerPage.counts at counted ⊢
        rw [view]
        exact counted
      dsimp only
      rw [if_pos counted]
      cases rejected with
      | none => exact ⟨current, .inl ⟨body, rfl, congrArg LedgerView.drawings view⟩⟩
      | some message => exact shown_ledgerFailed page drawn read _ message current
  | refused status detail retryAfter =>
      dsimp only
      split
      · have expired := counts_expired page read (.refused 401 detail retryAfter : LedgerReply β)
        exact shown_ledgerFailed page _ read _ _ (expired.trans counted)
      · split
        · have view : (page.ledgerBuilding read retryAfter).view read.kind =
              { page.view read.kind with
                building := true
                drawings := ⟨read.sent, none⟩ :: (page.view read.kind).drawings } := by
            change ((page.ledgerSetBuilding read.kind true).draw _ _).view read.kind = _
            rw [draw, view_setView, view_ledgerSetBuilding]
          refine ⟨?_, .inr (.inr (congrArg LedgerView.building view))⟩
          unfold LedgerPage.counts at counted ⊢
          rw [view]
          exact counted
        · exact shown_ledgerFailed page page read _ _ counted

end Frames

section Runs

variable (page : LedgerPage β) (ordered : page.Ordered)

include ordered

theorem ordered_setView (kind : LedgerKind) (view : LedgerView β)
    (same : view.generation = (page.view kind).generation) : (page.setView kind view).Ordered := by
  refine Ordered.of_shown page (page.setView kind view) ordered rfl rfl rfl rfl rfl ?_
  intro other
  change (Function.update page.view kind view other).generation = _
  by_cases equal : other = kind
  · rw [equal, Function.update_self, same]
  · rw [Function.update_of_ne equal]

theorem ordered_ledgerFailed (read : LedgerRead) (message : String) :
    (page.ledgerFailed read message).Ordered := by
  unfold ledgerFailed
  split
  · have settled : (page.ledgerSetBuilding read.kind false).Ordered := by
      apply ordered_setView page ordered
      rfl
    apply ordered_setView _ settled
    rfl
  · exact ordered

theorem ordered_ledgerDone (read : LedgerRead) : (page.ledgerDone read).Ordered := by
  unfold ledgerDone
  split
  · exact ordered_setView page ordered _ _ rfl
  · exact ordered

theorem ordered_expire (read : LedgerRead) : (page.expire read).Ordered := by
  unfold expire
  split
  · apply ordered_stopLedgerRetries
    exact ordered.of_shown page _ rfl rfl rfl rfl rfl fun _ => rfl
  · exact ordered

/-- The answer of a read keeps the order of the reads. -/
theorem ordered_settle (read : LedgerRead) (reply : LedgerReply β) (asked : read ∈ page.requests)
    (answered : read ∉ page.reads) (idle : page.newestRead read.kind = some read →
      ∀ timer ∈ page.running, timer.kind ≠ read.kind) : (page.settle read reply).Ordered := by
  unfold settle
  cases reply with
  | failed message => exact ordered_ledgerFailed page ordered read message
  | data body rejected =>
      dsimp only
      split
      · have drawn : ((page.ledgerSetBuilding read.kind false).draw read.kind
            ⟨read.sent, some body⟩).Ordered := by
          have settled : (page.ledgerSetBuilding read.kind false).Ordered := by
            apply ordered_setView page ordered
            rfl
          apply ordered_setView _ settled
          rfl
        cases rejected with
        | none => exact drawn
        | some message => exact ordered_ledgerFailed _ drawn read message
      · exact ordered
  | refused status detail retryAfter =>
      dsimp only
      split
      · exact ordered_ledgerFailed _ (ordered_expire page ordered read) read _
      · split
        · split
          · rename_i counted
            have newest := (counts_iff page ordered read asked).mp counted
            exact ordered_ledgerBuilding page ordered read retryAfter newest answered (idle newest)
          · exact ordered
        · exact ordered_ledgerFailed page ordered read _

/-- An answered read leaves the flight. -/
theorem ordered_answered (index : Nat) :
    { page with reads := page.reads.eraseIdx index }.Ordered := by
  have fewer : ∀ read ∈ page.reads.eraseIdx index, read ∈ page.reads :=
    fun read member => List.eraseIdx_subset member
  constructor
  · exact ordered.held
  · exact ordered.fresh
  · exact ordered.distinct
  · exact ordered.single
  · intro timer member
    obtain ⟨read, newest, setter, answered⟩ := ordered.setBy timer member
    exact ⟨read, newest, setter, fun inside => answered (fewer read inside)⟩
  · exact ordered.newest
  · exact ordered.current
  · exact ordered.bound
  · exact fun read member => ordered.flight read (fewer read member)
  · exact ordered.once.sublist (List.eraseIdx_sublist _ _)

/-- An answer keeps the order of the generations and the timers. -/
theorem ordered_answer (index : Nat) (reply : LedgerReply β) : (page.answer index reply).Ordered := by
  unfold answer
  split
  · exact ordered
  · rename_i read found
    have member := List.mem_of_getElem? found
    have rest := ordered_answered page ordered index
    apply ordered_ledgerDone
    apply ordered_settle _ rest read reply (ordered.flight read member)
    · obtain ⟨bound, place⟩ := List.getElem?_eq_some_iff.mp found
      intro again
      rw [List.mem_eraseIdx_iff_getElem] at again
      obtain ⟨other, inside, differs, same⟩ := again
      exact differs ((List.Nodup.getElem_inj_iff ordered.once).mp (same.trans place.symm))
    · intro newest timer running same
      obtain ⟨setter, current, _, answered⟩ := ordered.setBy timer running
      rw [same] at current
      have equal : setter = read := Option.some.inj (current.symm.trans newest)
      exact answered (equal ▸ member)

omit ordered in
/-- A timer that ran out is no longer running, and it has no further effect. -/
theorem frame_running (index : Nat) (timer : RetryTimer) (found : page.running[index]? = some timer) :
    page.KindFrame { page with running := page.running.eraseIdx index } timer.kind where
  view _ _ := rfl
  retryTimers _ _ := rfl
  pending other differs := by
    obtain ⟨bound, place⟩ := List.getElem?_eq_some_iff.mp found
    have split := List.take_append_drop index page.running
    change (page.running.eraseIdx index).filter _ = page.running.filter _
    conv_rhs => rw [← split]
    rw [List.eraseIdx_eq_take_drop_succ, List.filter_append, List.filter_append,
      List.drop_eq_getElem_cons bound, List.filter_cons_of_neg]
    rw [place]
    simpa using fun same => differs same.symm

theorem ordered_running (index : Nat) :
    { page with running := page.running.eraseIdx index }.Ordered := by
  have fewer : ∀ timer ∈ page.running.eraseIdx index, timer ∈ page.running :=
    fun timer member => List.mem_of_mem_eraseIdx member
  constructor
  · exact fun timer member => ordered.held timer (fewer timer member)
  · exact ordered.fresh
  · exact ordered.distinct
  · exact ordered.single.sublist (List.eraseIdx_sublist _ _)
  · exact fun timer member => ordered.setBy timer (fewer timer member)
  · exact ordered.newest
  · exact ordered.current
  · exact ordered.bound
  · exact ordered.flight
  · exact ordered.once

/-- A timer that elapses keeps the order of the generations and the timers. -/
theorem ordered_retry (index : Nat) : (page.retry index).Ordered := by
  unfold retry
  split
  · exact ordered
  · exact ordered_ledgerRead _ (ordered_running page ordered index) _

/-- Every step keeps the order of the reads. -/
theorem ordered_step (input : LedgerInput β) : (page.step input).Ordered := by
  have acted : (page.act input).Ordered := by
    unfold act
    cases input with
    | console input =>
        have later : { page with console := page.console.step input }.Ordered :=
          ordered.of_shown page _ rfl rfl rfl rfl rfl fun _ => rfl
        dsimp only
        split
        · exact ordered_stopLedgerRetries _ later
        · exact later
    | read kind =>
        dsimp only
        split
        · exact ordered_ledgerRead page ordered kind
        · exact ordered
    | answer index reply => exact ordered_answer page ordered index reply
    | retry index => exact ordered_retry page ordered index
  exact acted.of_shown _ _ rfl rfl rfl rfl rfl fun _ => rfl

end Runs

/-- The reads are in order after every run. -/
theorem ledgerAfter_ordered (signOutPending : Bool) (history : List (LedgerInput β)) :
    (ledgerAfter signOutPending history).Ordered := by
  induction history with
  | nil =>
      constructor <;> simp [ledgerAfter, newestRead]
  | cons input earlier ih => exact ordered_step _ ih input

section Newest

variable (page : LedgerPage β) (ordered : page.Ordered)

include ordered

/-- An ordered page has at most one timer for each kind. -/
theorem singleRetry_of_ordered : page.SingleRetry := by
  intro kind
  constructor
  · have single : (page.pending kind).Pairwise fun first second => first.kind ≠ second.kind :=
      ordered.single.filter _
    have kinds : ∀ timer ∈ page.pending kind, timer.kind = kind := by
      intro timer member
      simpa using (List.mem_filter.mp member).2
    match timers : page.pending kind with
    | [] => exact Nat.zero_le 1
    | [timer] => exact Nat.le_refl 1
    | first :: second :: rest =>
        rw [timers] at single kinds
        have differs := (List.pairwise_cons.mp single).1 second List.mem_cons_self
        have one := kinds first List.mem_cons_self
        have two := kinds second (List.mem_cons_of_mem _ List.mem_cons_self)
        exact absurd (one.trans two.symm) differs
  · intro timer member
    obtain ⟨running, own⟩ := List.mem_filter.mp member
    rw [decide_eq_true_eq] at own
    obtain ⟨read, newest, setter, _⟩ := ordered.setBy timer running
    rw [own] at newest
    exact ⟨read, newest, setter⟩

/-- A read that is sent clears the place and the timer of its kind. -/
theorem ledgerRead_asked (kind : LedgerKind) : (page.ledgerRead kind).pending kind = [] ∧
    (page.ledgerRead kind).view kind =
      { page.view kind with
        generation := (page.view kind).generation + 1
        loading := true
        error := none } := by
  constructor
  · change (page.ledgerStopRetry kind).running.filter _ = []
    rw [running_ledgerStopRetry page ordered, List.filter_filter, List.filter_eq_nil_iff]
    intro timer _
    simp
  · exact Function.update_self _ _ _

omit ordered in
/-- A frame leaves the other kinds alone. -/
theorem leftAlone_of_frame (later : LedgerPage β) (kind other : LedgerKind)
    (frame : page.KindFrame later kind) (differs : other ≠ kind) :
    page.LeftAlone false later other := by
  refine ⟨?_, frame.retryTimers other differs, frame.pending other differs⟩
  rw [frame.view other differs, Bool.not_false, Bool.and_true]

/-- The end of the session takes back the retries and the building of every kind. -/
theorem leftAlone_stopLedgerRetries (kind : LedgerKind) :
    page.LeftAlone true page.stopLedgerRetries kind := by
  refine ⟨?_, ?_, ?_⟩
  · rw [Bool.not_true, Bool.and_false]
    rfl
  · cases kind <;> rfl
  · change page.stopLedgerRetries.running.filter _ = []
    rw [running_stopLedgerRetries page ordered, List.filter_nil]

omit ordered in
/-- A step that changes no place and no timer leaves every kind to its newest read. -/
theorem wins_of_kept (input : LedgerInput β) (takesBack : Bool)
    (unsent : ∀ kind, ¬ page.sends kind input)
    (unanswered : ∀ index reply read, input = .answer index reply → page.reads[index]? ≠ some read)
    (left : ∀ kind, page.LeftAlone takesBack (page.step input) kind) :
    page.NewestReadWins input takesBack := by
  constructor
  · intro kind sent
    exact absurd sent (unsent kind)
  · exact fun kind _ _ => left kind
  · exact fun _ _ other _ => left other
  · intro index reply read same found
    exact absurd found (unanswered index reply read same)

omit ordered in
/-- A page that is not touched is left alone. -/
theorem leftAlone_of_same (input : LedgerInput β) (view : (page.act input).view = page.view)
    (retryTimers : (page.act input).retryTimers = page.retryTimers)
    (pending : (page.act input).pending = page.pending) (kind : LedgerKind) :
    page.LeftAlone false (page.step input) kind := by
  refine ⟨?_, congrFun retryTimers kind, congrFun pending kind⟩
  rw [Bool.not_false, Bool.and_true]
  exact congrFun view kind

/-- The end of the session, if an answer finds it, takes back the retries and the building. -/
theorem leftAlone_expired (index : Nat) (read : LedgerRead) (reply : LedgerReply β)
    (found : page.reads[index]? = some read) (kind : LedgerKind) :
    page.LeftAlone (page.endsSession (.answer index reply))
      ({ page with reads := page.reads.eraseIdx index }.expired read reply) kind := by
  let answered : LedgerPage β := { page with reads := page.reads.eraseIdx index }
  have same : page.LeftAlone false answered kind := by
    refine ⟨?_, rfl, rfl⟩
    rw [Bool.not_false, Bool.and_true]
  unfold expired endsSession
  cases reply with
  | failed message => exact same
  | data body rejected => exact same
  | refused status detail retryAfter =>
      dsimp only
      rw [found, Option.any_some]
      by_cases invalid : status = 401
      · rw [if_pos invalid, decide_eq_true invalid, Bool.true_and]
        unfold expire
        cases owned : page.console.ownsSession read.session with
        | false => exact same
        | true =>
            have ended : Ordered { answered with console := page.console.endSession "invalid" } :=
              (ordered_answered page ordered index).of_shown _ _ rfl rfl rfl rfl rfl fun _ => rfl
            rw [if_pos rfl]
            have stopped := leftAlone_stopLedgerRetries _ ended kind
            exact ⟨stopped.view, stopped.retryTimers, stopped.pending⟩
      · rw [if_neg invalid, decide_eq_false invalid, Bool.false_and]
        exact same

/-- The answer of a read in flight has an effect on its kind only, and only if it is the newest. -/
theorem answer_wins_of_found (index : Nat) (read : LedgerRead) (reply : LedgerReply β)
    (found : page.reads[index]? = some read) :
    page.NewestReadWins (.answer index reply) (page.endsSession (.answer index reply)) := by
  let answered : LedgerPage β := { page with reads := page.reads.eraseIdx index }
  have acted : page.answer index reply = (answered.settle read reply).ledgerDone read := by
    unfold answer
    rw [found]
  have left := leftAlone_expired page ordered index read reply found
  have frame : (answered.expired read reply).KindFrame (page.answer index reply) read.kind := by
    rw [acted]
    exact (frame_settle answered read reply).trans (frame_ledgerDone _ read)
  have others : ∀ kind ≠ read.kind, page.LeftAlone (page.endsSession (.answer index reply))
      (page.step (.answer index reply)) kind := by
    intro kind differs
    exact ⟨(frame.view kind differs).trans (left kind).view,
      (frame.retryTimers kind differs).trans (left kind).retryTimers,
      (frame.pending kind differs).trans (left kind).pending⟩
  have asked := ordered.flight read (List.mem_of_getElem? found)
  constructor
  · intro kind sent
    exact absurd sent id
  · intro kind _ superseded
    by_cases own : kind = read.kind
    · have late : answered.counts read = false := by
        rw [← Bool.not_eq_true]
        intro counted
        have newest := (counts_iff page ordered read asked).mp counted
        exact superseded ⟨read, found, own.symm, own ▸ newest⟩
      have same : page.answer index reply = answered.expired read reply :=
        acted.trans (settle_superseded answered read reply late)
      have kept := left kind
      rw [← same] at kept
      exact ⟨kept.view, kept.retryTimers, kept.pending⟩
    · exact others kind own
  · rintro kind (sent | ⟨other, again, own, _⟩) third differs
    · exact absurd sent id
    · rw [found, Option.some.injEq] at again
      exact others third (by rw [again, own]; exact differs)
  · intro place answer other same again newest
    cases same
    rw [found, Option.some.injEq] at again
    subst again
    have counted : answered.counts read = true := (counts_iff page ordered read asked).mpr newest
    obtain ⟨current, shown⟩ := shown_settle answered read reply counted
    have view := view_ledgerDone _ read current
    rw [← acted] at view
    change ((page.answer index reply).view read.kind).loading = false ∧
      ((∃ body, _ ∧ ((page.answer index reply).view read.kind).drawings = _) ∨
        ((page.answer index reply).view read.kind).error.isSome = true ∨
        ((page.answer index reply).view read.kind).building = true)
    rw [view]
    exact ⟨rfl, shown⟩

/-- An answer of a read that is not in flight does nothing. -/
theorem answer_wins (index : Nat) (reply : LedgerReply β) :
    page.NewestReadWins (.answer index reply) (page.endsSession (.answer index reply)) := by
  cases found : page.reads[index]? with
  | none =>
      have same : page.act (.answer index reply) = page := by
        change page.answer index reply = page
        unfold answer
        rw [found]
      have silent : page.endsSession (.answer index reply) = false := by
        unfold endsSession
        cases reply <;> simp [found]
      rw [silent]
      apply wins_of_kept page _ _ (fun _ => id)
      · intro place answer read named
        cases named
        rw [found]
        simp
      · exact leftAlone_of_same page _ (by rw [same]) (by rw [same]) (by rw [same])
  | some read => exact answer_wins_of_found page ordered index read reply found

/-- A read that is sent has an effect on its own kind only. -/
theorem read_wins (kind : LedgerKind) : page.NewestReadWins (.read kind) false := by
  by_cases signedIn : page.console.signedIn = true
  · have acted : page.act (.read kind) = page.ledgerRead kind := if_pos signedIn
    have frame : page.KindFrame (page.step (.read kind)) kind := by
      change page.KindFrame { page.act (.read kind) with steps := page.steps + 1 } kind
      rw [acted]
      exact ⟨(frame_ledgerRead page ordered kind).view,
        (frame_ledgerRead page ordered kind).retryTimers,
        (frame_ledgerRead page ordered kind).pending⟩
    have left := leftAlone_of_frame page (page.step (.read kind)) kind
    constructor
    · rintro other ⟨_, same⟩
      rw [← same]
      change (page.act (.read kind)).pending kind = [] ∧ (page.act (.read kind)).view kind = _
      rw [acted]
      exact ledgerRead_asked page ordered kind
    · intro other unsent _
      exact left other frame fun same => unsent ⟨signedIn, same.symm⟩
    · rintro other (⟨_, same⟩ | answered) third differs
      · exact left third frame (same ▸ differs)
      · exact absurd answered id
    · intro place answer other same
      cases same
  · have same : page.act (.read kind) = page := if_neg signedIn
    apply wins_of_kept page
    · rintro other ⟨signed, _⟩
      exact absurd signed signedIn
    · intro place answer other named
      cases named
    · exact leftAlone_of_same page _ (by rw [same]) (by rw [same]) (by rw [same])

/-- A timer that runs out has an effect on its own kind only. -/
theorem retry_wins_of_found (index : Nat) (timer : RetryTimer)
    (found : page.running[index]? = some timer) : page.NewestReadWins (.retry index) false := by
  let fired : LedgerPage β := { page with running := page.running.eraseIdx index }
  have acted : page.retry index = fired.ledgerRead timer.kind := by
    unfold retry
    rw [found]
  have order := ordered_running page ordered index
  have framed : page.KindFrame (page.retry index) timer.kind := by
    rw [acted]
    exact (frame_running page index timer found).trans (frame_ledgerRead fired order timer.kind)
  have frame : page.KindFrame (page.step (.retry index)) timer.kind :=
    ⟨framed.view, framed.retryTimers, framed.pending⟩
  have left := leftAlone_of_frame page (page.step (.retry index)) timer.kind
  constructor
  · rintro kind ⟨other, running, own⟩
    rw [found, Option.some.injEq] at running
    rw [← own, ← running]
    change (page.retry index).pending _ = [] ∧ (page.retry index).view _ = _
    rw [acted]
    exact ledgerRead_asked fired order timer.kind
  · intro kind unsent _
    exact left kind frame fun same => unsent ⟨timer, found, same.symm⟩
  · rintro kind (⟨other, running, own⟩ | answered) third differs
    · rw [found, Option.some.injEq] at running
      exact left third frame (by rw [running, own]; exact differs)
    · exact absurd answered id
  · intro place answer other same
    cases same

/-- Every retry obeys the law of the newest reads. -/
theorem retry_wins (index : Nat) : page.NewestReadWins (.retry index) false := by
  cases found : page.running[index]? with
  | none =>
      have same : page.act (.retry index) = page := by
        change page.retry index = page
        unfold retry
        rw [found]
      apply wins_of_kept page
      · rintro kind ⟨timer, running, _⟩
        rw [found] at running
        exact absurd running (by simp)
      · intro place answer other named
        cases named
      · exact leftAlone_of_same page _ (by rw [same]) (by rw [same]) (by rw [same])
  | some timer => exact retry_wins_of_found page ordered index timer found

/-- A step of the session leaves the reads alone, unless it shows the login form. -/
theorem console_wins (input : ConsoleInput) :
    page.NewestReadWins (.console input) (page.console.showsLogin input) := by
  let later : LedgerPage β := { page with console := page.console.step input }
  apply wins_of_kept page _ _ (fun _ => id)
  · intro place answer read named
    cases named
  · intro kind
    cases shows : page.console.showsLogin input with
    | false =>
        have acted : page.act (.console input) = later := if_neg (by simp [shows])
        exact leftAlone_of_same page _ (by rw [acted]) (by rw [acted]) (by rw [acted]; rfl) kind
    | true =>
        have acted : page.act (.console input) = later.stopLedgerRetries := if_pos shows
        have order : later.Ordered := ordered.of_shown page _ rfl rfl rfl rfl rfl fun _ => rfl
        have stopped := leftAlone_stopLedgerRetries later order kind
        rw [← acted] at stopped
        exact ⟨stopped.view, stopped.retryTimers, stopped.pending⟩

end Newest

/-- In every run only the newest read of a kind has an effect on its place and its timer, apart from
the end of the session, which takes back the retries and the building of every kind. -/
theorem newestReadWins : NewestReadLaw β endsSession := by
  intro signOutPending history
  have ordered := ledgerAfter_ordered signOutPending history
  refine ⟨singleRetry_of_ordered _ ordered, ?_⟩
  intro input
  cases input with
  | console input => exact console_wins _ ordered input
  | read kind => exact read_wins _ ordered kind
  | answer index reply => exact answer_wins _ ordered index reply
  | retry index => exact retry_wins _ ordered index

/-- The works wait for their retry when a read of the density finds the session invalid. -/
def invalidDensity : List (LedgerInput Unit) :=
  [.answer 1 (.refused 503 (some ledgerNotRefreshed) .absent), .read .works, .read .density,
    .console (.resumeAnswer 0 (.live {})), .console .loaded]

/-- An invalid session that one kind of read finds stops the retry of another kind. -/
theorem newestReadWins_fails : ¬ NewestReadLaw Unit signsOut := by
  intro law
  have wins := (law false invalidDensity).2 (.answer 0 (.refused 401 none .absent))
  have kept := (wins.settled .works (by simp [sends]) (by
    rintro ⟨read, found, kind, _⟩
    have first : (ledgerAfter false invalidDensity).reads[0]?.map LedgerRead.kind =
        some .density := by decide +kernel
    rw [found, Option.map_some, kind] at first
    simp at first)).pending
  change _ = (ledgerAfter false invalidDensity).pending .works at kept
  have waits : ((ledgerAfter false invalidDensity).pending .works).length = 1 := by decide +kernel
  rw [← kept] at waits
  revert waits
  decide +kernel

end LedgerPage

end OperationsConsole.Browser
