/-
This file proves the admission, the re-check schedule, and the exit of a live socket.
The wait of the loop ends at the next check or at the expiry of the session, whichever is earlier.
-/

import OperationsConsole.Session.SocketLog

namespace OperationsConsole.Session

open Library

/-- The loop iterates when its wait ends or when the opening sends are done. -/
def Iterates (live : LiveSocket) (input : SocketInput) (schedule : Schedule) : Prop :=
  (∃ deadline, live.phase = .waiting schedule deadline ∧ (input = .frame ∨ input = .timeout)) ∨
    ∃ token session, live.phase = .sendingBacklog token session ∧ input = .proceed ∧
      schedule = ⟨token, session, live.gate.now.monotonic + wsSessionRecheckSeconds⟩

/-- A re-check is due at its instant or at the expiry of the session. -/
def Schedule.Due (schedule : Schedule) (now : Instant) : Prop :=
  schedule.nextCheck ≤ now.monotonic ∨ schedule.session.expiresAt ≤ now.wall

/-- The timer of a wait fires before the clock passes the end of the wait. -/
def TimerFires (live : LiveSocket) : SocketInput → Prop
  | .gate (.elapse seconds) => ∀ schedule deadline, live.phase = .waiting schedule deadline →
      live.gate.now.monotonic + seconds ≤ deadline
  | _ => True

/-- A live socket is admitted, re-checked, and closed like this over a run of the server. -/
structure LiveSocketContract (platform : Platform) (cacheSeconds : Seconds) (start : Instant)
    (history : List SocketInput) : Prop where
  member : ∀ part, part <:+ history →
    (socketAfter platform cacheSeconds start part).connected =
      inBroadcastSet (socketAfter platform cacheSeconds start part).log
  admission : ∀ later earlier,
    (socketAfter platform cacheSeconds start history).log = later ++ .joined :: earlier →
      ∃ token, Admitted platform token earlier
  waits : ∀ part, part <:+ history → ∀ schedule deadline,
    (socketAfter platform cacheSeconds start part).phase = .waiting schedule deadline →
      let now := (socketAfter platform cacheSeconds start part).gate.now
      deadline = min schedule.nextCheck (now.monotonic + schedule.session.secondsLeft now.wall)
  ends : Guarded (LiveSocket.step platform) (socketAfter platform cacheSeconds start []) TimerFires
      history → ∀ part, part <:+ history → ∀ schedule deadline,
    (socketAfter platform cacheSeconds start part).phase = .waiting schedule deadline →
      let now := (socketAfter platform cacheSeconds start part).gate.now
      now.monotonic ≤ schedule.nextCheck ∧ now.wall ≤ schedule.session.expiresAt
  moves : ∀ input earlier, input :: earlier <:+ history →
    let before := socketAfter platform cacheSeconds start earlier
    let later := socketAfter platform cacheSeconds start (input :: earlier)
    ∀ old new, before.phase.nextCheck = some old → later.phase.nextCheck = some new → old ≠ new →
      ∃ schedule call step answer session, before.phase = .rechecking schedule call ∧
        input = .gate step ∧ before.gate.answerTo platform call step = some (answer, .ok session) ∧
        new = before.gate.now.monotonic + wsSessionRecheckSeconds
  rechecks : ∀ input earlier, input :: earlier <:+ history →
    let before := socketAfter platform cacheSeconds start earlier
    let later := socketAfter platform cacheSeconds start (input :: earlier)
    ∀ schedule, Iterates before input schedule → schedule.Due before.gate.now →
      ∃ call, later.log = .asked call schedule.token :: before.log ∧
          later.phase = .rechecking schedule call ∨
        later.log = .rejected .invalid :: .asked call schedule.token :: before.log ∧
          later.phase = .leaving (wsCloseCode .invalid)
  rejects : ∀ step earlier, .gate step :: earlier <:+ history →
    let before := socketAfter platform cacheSeconds start earlier
    let later := socketAfter platform cacheSeconds start (.gate step :: earlier)
    ∀ schedule call answer reason, before.phase = .rechecking schedule call →
      before.gate.answerTo platform call step = some (answer, .error reason) →
        later.log = .rejected reason :: .answered call answer :: before.log ∧
          later.phase = .leaving (wsCloseCode reason)
  exits : ∀ part code, part <:+ history →
    let before := socketAfter platform cacheSeconds start part
    let later := socketAfter platform cacheSeconds start (.proceed :: .proceed :: part)
    before.phase = .leaving code →
      later.log = .closed code :: .left :: before.log ∧ later.connected = false
  leaves : ∀ later earlier,
    (socketAfter platform cacheSeconds start history).log = later ++ .left :: earlier →
      .targeted ∉ later
  closes : ∀ later code earlier,
    (socketAfter platform cacheSeconds start history).log = later ++ .closed code :: earlier →
      inBroadcastSet earlier = false ∧
        (∀ reason, lastRejection earlier = some reason → code = wsCloseCode reason) ∧
        .targeted ∉ later

section Schedule

variable (platform : Platform) (live : LiveSocket)

/-- A due re-check is started at the head of the loop, or it is rejected there. -/
theorem loopHead_due (schedule : Schedule) (due : schedule.Due live.gate.now) :
    ∃ call, (live.loopHead platform schedule).log = .asked call schedule.token :: live.log ∧
        (live.loopHead platform schedule).phase = .rechecking schedule call ∨
      (live.loopHead platform schedule).log =
          .rejected .invalid :: .asked call schedule.token :: live.log ∧
        (live.loopHead platform schedule).phase = .leaving (wsCloseCode .invalid) := by
  have reached : schedule.nextCheck ≤ live.gate.now.monotonic ∨
      schedule.session.secondsLeft live.gate.now.wall ≤ 0 :=
    due.imp_right sub_nonpos.mpr
  unfold LiveSocket.loopHead
  rw [if_pos reached]
  rcases validateToken_cases platform live schedule.token (.rechecking schedule)
    (LiveSocket.resume schedule) with rejected | ⟨asked, _⟩
  · rw [rejected]
    exact ⟨live.gate.unusedCall, .inr ⟨rfl, rfl⟩⟩
  · rw [asked]
    exact ⟨live.gate.unusedCall, .inl ⟨rfl, rfl⟩⟩

/-- The head of the loop waits when no re-check is due. -/
theorem loopHead_early (schedule : Schedule) (early : ¬ schedule.Due live.gate.now) :
    live.loopHead platform schedule = live.receive schedule := by
  unfold LiveSocket.loopHead
  rw [if_neg]
  intro reached
  exact early (reached.imp_right sub_nonpos.mp)

/-- The head of the loop does not move the next check. -/
theorem loopHead_nextCheck (schedule : Schedule) (instant : Seconds)
    (next : (live.loopHead platform schedule).phase.nextCheck = some instant) :
    schedule.nextCheck = instant := by
  by_cases due : schedule.Due live.gate.now
  · obtain ⟨call, ⟨_, phase⟩ | ⟨_, phase⟩⟩ := loopHead_due platform live schedule due
    · rw [phase] at next
      exact Option.some.inj next
    · rw [phase] at next
      simp [Phase.nextCheck] at next
  · rw [loopHead_early platform live schedule due] at next
    exact Option.some.inj next

/-- A validation outside the loop leaves no wait and no next check. -/
theorem admission_nextCheck (token : String) :
    (live.validateToken platform token (.checking token)
      (LiveSocket.welcome token)).phase.nextCheck = none := by
  rcases validateToken_cases platform live token (.checking token) (LiveSocket.welcome token) with
    rejected | ⟨asked, _⟩
  · rw [rejected]
    rfl
  · rw [asked]
    rfl

theorem broadcast_phase : live.broadcast.phase = live.phase := by
  unfold LiveSocket.broadcast
  split <;> rfl

theorem drop_phase : live.drop.phase = live.phase := by
  unfold LiveSocket.drop
  split <;> rfl

/-- No step from a wait moves the next check. -/
theorem waiting_nextCheck (input : SocketInput) (schedule : Schedule) (deadline new : Seconds)
    (phase : live.phase = .waiting schedule deadline)
    (later : (live.step platform input).phase.nextCheck = some new) :
    schedule.nextCheck = new := by
  have still : (live.step platform input).phase = live.phase → schedule.nextCheck = new := by
    intro unchanged
    rw [unchanged, phase] at later
    exact Option.some.inj later
  cases input with
  | gate input => exact still (by simp [LiveSocket.step, LiveSocket.hear, phase])
  | connect ticket => exact still (by simp [LiveSocket.step, LiveSocket.connect, phase])
  | proceed => exact still (by simp [LiveSocket.step, LiveSocket.proceed, phase])
  | fail => simp [LiveSocket.step, LiveSocket.fail, phase, LiveSocket.enter, Phase.nextCheck] at later
  | frame =>
      rw [LiveSocket.step, LiveSocket.wake, phase] at later
      exact loopHead_nextCheck platform live schedule new later
  | timeout =>
      rw [LiveSocket.step, LiveSocket.wake, phase] at later
      exact loopHead_nextCheck platform live schedule new later
  | disconnect =>
      simp [LiveSocket.step, LiveSocket.disconnect, phase, LiveSocket.enter, Phase.nextCheck] at later
  | broadcast => exact still (broadcast_phase live)
  | drop => exact still (drop_phase live)
  | collect => exact still rfl

/-- The answer of a re-check moves the next check to one interval later. -/
theorem answered_nextCheck (step : GateInput) (schedule : Schedule) (call : Nat) (check : Check)
    (new : Seconds) (phase : live.phase = .rechecking schedule call)
    (pending : live.gate.checks.get? call = some check)
    (later : (live.step platform (.gate step)).phase.nextCheck = some new) :
    schedule.nextCheck = new ∨ ∃ answer session,
      live.gate.answerTo platform call step = some (answer, .ok session) ∧
        new = live.gate.now.monotonic + wsSessionRecheckSeconds := by
  rw [LiveSocket.step, LiveSocket.hear, phase] at later
  dsimp only at later
  cases found : live.gate.answerTo platform call step with
  | none =>
      rw [found] at later
      exact .inl (Option.some.inj later)
  | some result =>
      obtain ⟨answer, verdict⟩ := result
      have now := (answerTo_some platform live.gate step call check answer verdict pending found).2
      rw [found] at later
      cases verdict with
      | ok session =>
          refine .inr ⟨answer, session, rfl, ?_⟩
          rw [← now]
          exact (Option.some.inj later).symm
      | error reason => simp [LiveSocket.resume, LiveSocket.enter, Phase.nextCheck] at later

/-- A step from a re-check moves the next check only with an answer that has a session. -/
theorem rechecking_nextCheck (input : SocketInput) (schedule : Schedule) (call : Nat)
    (check : Check) (new : Seconds) (phase : live.phase = .rechecking schedule call)
    (pending : live.gate.checks.get? call = some check)
    (later : (live.step platform input).phase.nextCheck = some new) :
    schedule.nextCheck = new ∨ ∃ step answer session, input = .gate step ∧
      live.gate.answerTo platform call step = some (answer, .ok session) ∧
        new = live.gate.now.monotonic + wsSessionRecheckSeconds := by
  have still : (live.step platform input).phase = live.phase → schedule.nextCheck = new := by
    intro unchanged
    rw [unchanged, phase] at later
    exact Option.some.inj later
  cases input with
  | gate step =>
      rcases answered_nextCheck platform live step schedule call check new phase pending later with
        same | ⟨answer, session, found, moved⟩
      · exact .inl same
      · exact .inr ⟨step, answer, session, rfl, found, moved⟩
  | connect ticket => exact .inl (still (by simp [LiveSocket.step, LiveSocket.connect, phase]))
  | proceed => exact .inl (still (by simp [LiveSocket.step, LiveSocket.proceed, phase]))
  | fail => simp [LiveSocket.step, LiveSocket.fail, phase, LiveSocket.enter, Phase.nextCheck] at later
  | frame => exact .inl (still (by simp [LiveSocket.step, LiveSocket.wake, phase]))
  | timeout => exact .inl (still (by simp [LiveSocket.step, LiveSocket.wake, phase]))
  | disconnect => exact .inl (still (by simp [LiveSocket.step, LiveSocket.disconnect, phase]))
  | broadcast => exact .inl (still (broadcast_phase live))
  | drop => exact .inl (still (drop_phase live))
  | collect => exact .inl (still rfl)

/-- The next check moves only when a re-check has just succeeded. -/
theorem step_nextCheck (input : SocketInput) (fits : SocketFits platform live) (old new : Seconds)
    (before : live.phase.nextCheck = some old)
    (later : (live.step platform input).phase.nextCheck = some new) (moved : old ≠ new) :
    ∃ schedule call step answer session, live.phase = .rechecking schedule call ∧
      input = .gate step ∧ live.gate.answerTo platform call step = some (answer, .ok session) ∧
      new = live.gate.now.monotonic + wsSessionRecheckSeconds := by
  have waiting := fits.pending
  cases phase : live.phase with
  | waiting schedule deadline =>
      rw [phase] at before
      have same := waiting_nextCheck platform live input schedule deadline new phase later
      exact absurd ((Option.some.inj before).symm.trans same) moved
  | rechecking schedule call =>
      rw [phase] at before waiting
      obtain ⟨check, pending, _⟩ := waiting
      rcases rechecking_nextCheck platform live input schedule call check new phase pending later with
        same | ⟨step, answer, session, heard, found, instant⟩
      · exact absurd ((Option.some.inj before).symm.trans same) moved
      · exact ⟨schedule, call, step, answer, session, rfl, heard, found, instant⟩
  | _ =>
      rw [phase] at before
      simp [Phase.nextCheck] at before

/-- An iteration of the loop starts the re-check that is due. -/
theorem iterates_due (input : SocketInput) (schedule : Schedule)
    (iterates : Iterates live input schedule) (due : schedule.Due live.gate.now) :
    ∃ call, (live.step platform input).log = .asked call schedule.token :: live.log ∧
        (live.step platform input).phase = .rechecking schedule call ∨
      (live.step platform input).log =
          .rejected .invalid :: .asked call schedule.token :: live.log ∧
        (live.step platform input).phase = .leaving (wsCloseCode .invalid) := by
  have head : live.step platform input = live.loopHead platform schedule := by
    rcases iterates with ⟨deadline, phase, same⟩ | ⟨token, session, phase, same, opening⟩
    · rcases same with same | same <;> rw [same, LiveSocket.step, LiveSocket.wake, phase]
    · rw [same, opening, LiveSocket.step, LiveSocket.proceed, phase]
  rw [head]
  exact loopHead_due platform live schedule due

/-- A rejected re-check begins the exit with the code of its reason. -/
theorem recheck_rejected (step : GateInput) (schedule : Schedule) (call : Nat) (answer : Answer)
    (reason : Reason) (phase : live.phase = .rechecking schedule call)
    (found : live.gate.answerTo platform call step = some (answer, .error reason)) :
    (live.step platform (.gate step)).log =
        .rejected reason :: .answered call answer :: live.log ∧
      (live.step platform (.gate step)).phase = .leaving (wsCloseCode reason) := by
  unfold LiveSocket.step LiveSocket.hear
  dsimp only
  rw [phase]
  dsimp only
  rw [found]
  exact ⟨rfl, rfl⟩

/-- The exit discards the socket and then closes it. -/
theorem leaving_exits (code : Nat) (phase : live.phase = .leaving code) :
    ((live.step platform .proceed).step platform .proceed).log =
        .closed code :: .left :: live.log ∧
      ((live.step platform .proceed).step platform .proceed).connected = false := by
  have left : live.step platform .proceed =
      (LiveSocket.record { live with connected := false } .left).enter (.closing code) := by
    rw [LiveSocket.step, LiveSocket.proceed, phase]
  rw [left]
  exact ⟨rfl, rfl⟩

/-- A loop that waits has not passed the end of its wait. -/
def InTime (live : LiveSocket) : Prop :=
  ∀ schedule deadline, live.phase = .waiting schedule deadline →
    live.gate.now.monotonic ≤ deadline

theorem inTime_of_other (other : live.phase.nextCheck = none) : InTime live := by
  intro schedule deadline phase
  rw [phase] at other
  simp [Phase.nextCheck] at other

theorem receive_inTime (schedule : Schedule) : InTime (live.receive schedule) := by
  intro other deadline phase
  change Phase.waiting _ _ = _ at phase
  rw [Phase.waiting.injEq] at phase
  rw [← phase.2]
  exact le_add_of_nonneg_right (le_max_right _ _)

theorem loopHead_inTime (schedule : Schedule) : InTime (live.loopHead platform schedule) := by
  by_cases due : schedule.Due live.gate.now
  · intro other deadline phase
    obtain ⟨call, ⟨_, same⟩ | ⟨_, same⟩⟩ := loopHead_due platform live schedule due
    · rw [same] at phase
      simp at phase
    · rw [same] at phase
      simp at phase
  · rw [loopHead_early platform live schedule due]
    exact receive_inTime live schedule

/-- A step of the gate moves the clocks only when time elapses. -/
theorem step_now (run : GateRun) (input : GateInput) (still : ∀ seconds, input ≠ .elapse seconds) :
    (run.step platform input).now = run.now := by
  cases input with
  | elapse seconds => exact absurd rfl (still seconds)
  | validate call token fresh => exact (validate_record platform run call token fresh).2
  | answer call reply =>
      unfold GateRun.step GateRun.act GateRun.answer
      dsimp only
      split <;> rfl
  | forget authorization => rfl
  | issue session token ticket => rfl
  | redeem ticket => rfl

theorem hear_inTime (input : GateInput) (fires : TimerFires live (.gate input))
    (early : InTime live) : InTime (live.hear platform input) := by
  unfold LiveSocket.hear
  cases phase : live.phase with
  | waiting schedule deadline =>
      intro other ending same
      rw [Phase.waiting.injEq] at same
      rw [← same.2]
      change (live.gate.step platform input).now.monotonic ≤ deadline
      cases input with
      | elapse seconds => exact fires schedule deadline phase
      | _ =>
          rw [step_now platform live.gate _ (by simp)]
          exact early schedule deadline phase
  | checking token call =>
      dsimp only
      split
      · rename_i found _
        apply inTime_of_other
        cases found.2 <;> rfl
      · exact inTime_of_other _ rfl
  | rechecking schedule call =>
      dsimp only
      split
      · rename_i found _
        cases found.2 with
        | ok session => exact receive_inTime _ _
        | error reason => exact inTime_of_other _ rfl
      · intro other ending same
        simp at same
  | _ => exact inTime_of_other _ rfl

/-- A step whose timer fires in time does not pass the end of a wait. -/
theorem step_inTime (input : SocketInput) (fires : TimerFires live input) (early : InTime live) :
    InTime (live.step platform input) := by
  cases input with
  | gate input => exact hear_inTime platform live input fires early
  | connect ticket =>
      unfold LiveSocket.step LiveSocket.connect
      cases phase : live.phase with
      | idle =>
          dsimp only
          split <;> exact inTime_of_other _ rfl
      | _ => exact early
  | proceed =>
      unfold LiveSocket.step LiveSocket.proceed
      cases phase : live.phase with
      | accepting grant =>
          cases grant with
          | none => exact inTime_of_other _ rfl
          | some grant => exact inTime_of_other _ (admission_nextCheck platform live grant.token)
      | joining token session =>
          apply inTime_of_other
          cases metrics : live.latestMetrics <;> simp [LiveSocket.enter, Phase.nextCheck]
      | sendingBacklog token session => exact loopHead_inTime platform live _
      | waiting schedule deadline => exact early
      | rechecking schedule call => exact early
      | idle => exact early
      | checking token call => exact early
      | ended => exact early
      | _ => exact inTime_of_other _ rfl
  | fail =>
      unfold LiveSocket.step LiveSocket.fail
      cases phase : live.phase with
      | idle => exact early
      | joining token session => exact early
      | leaving code => exact early
      | discarding => exact early
      | ended => exact early
      | _ => exact inTime_of_other _ rfl
  | frame =>
      unfold LiveSocket.step LiveSocket.wake
      cases phase : live.phase with
      | waiting schedule deadline => exact loopHead_inTime platform live schedule
      | _ => exact early
  | timeout =>
      unfold LiveSocket.step LiveSocket.wake
      cases phase : live.phase with
      | waiting schedule deadline => exact loopHead_inTime platform live schedule
      | _ => exact early
  | disconnect =>
      unfold LiveSocket.step LiveSocket.disconnect
      cases phase : live.phase with
      | waiting schedule deadline => exact inTime_of_other _ rfl
      | _ => exact early
  | broadcast =>
      unfold LiveSocket.step LiveSocket.broadcast
      dsimp only
      split <;> exact early
  | drop =>
      unfold LiveSocket.step LiveSocket.drop
      dsimp only
      split <;> exact early
  | collect => exact early

end Schedule

section Run

variable (platform : Platform) (cacheSeconds : Seconds) (start : Instant)

theorem socketAfter_fits (history : List SocketInput) :
    SocketFits platform (socketAfter platform cacheSeconds start history) := by
  induction history with
  | nil => exact ⟨trivial, rfl, ⟨by simp [socketAfter], by simp [socketAfter],
      by simp [socketAfter], rfl⟩, trivial, trivial⟩
  | cons input earlier ih => exact socketStep_fits platform _ input ih

/-- A run whose timers fire in time never waits past the end of a wait. -/
theorem socketAfter_inTime (history : List SocketInput)
    (fires : Guarded (LiveSocket.step platform) (socketAfter platform cacheSeconds start [])
      TimerFires history) : InTime (socketAfter platform cacheSeconds start history) := by
  apply after_invariant (LiveSocket.step platform) (socketAfter platform cacheSeconds start [])
    TimerFires InTime
  · exact inTime_of_other _ rfl
  · intro live input guard early
    exact step_inTime platform live input guard early
  · exact fires

/-- Every run of the server keeps the contract of a live socket. -/
theorem liveSocket_contract (history : List SocketInput) :
    LiveSocketContract platform cacheSeconds start history := by
  have fits := socketAfter_fits platform cacheSeconds start
  refine ⟨?_, ?_, ?_, ?_, ?_, ?_, ?_, ?_, ?_, ?_⟩
  · intro part _
    exact (fits part).member
  · intro later earlier split
    have lawful := (fits history).lawful
    rw [split] at lawful
    exact (Lawful.at_split _ later .joined earlier lawful).2.2
  · intro part _ schedule deadline phase
    have wait := (fits part).wait
    rw [phase] at wait
    exact wait
  · intro fires part suffix schedule deadline phase
    have wait := (fits part).wait
    rw [phase, WaitFits] at wait
    have early := socketAfter_inTime platform cacheSeconds start part
      (Guarded.suffix _ _ _ history part fires suffix) schedule deadline phase
    rw [wait, le_min_iff] at early
    refine ⟨early.1, ?_⟩
    exact sub_nonneg.mp (le_add_iff_nonneg_right _ |>.mp early.2)
  · intro input earlier _ before later old new known next moved
    exact step_nextCheck platform before input (fits earlier) old new known next moved
  · intro input earlier _ before later schedule iterates due
    exact iterates_due platform before input schedule iterates due
  · intro step earlier _ before later schedule call answer reason phase found
    exact recheck_rejected platform before step schedule call answer reason phase found
  · intro part code _ before later phase
    exact leaving_exits platform before code phase
  · intro later earlier split
    have lawful := (fits history).lawful
    rw [split] at lawful
    exact (untargeted_after platform later .left earlier lawful (.inl rfl) rfl).1
  · intro later code earlier split
    have lawful := (fits history).lawful
    rw [split] at lawful
    obtain ⟨outside, reasons⟩ := Lawful.at_split _ later (.closed code) earlier lawful
    refine ⟨outside, reasons, ?_⟩
    exact (untargeted_after platform later (.closed code) earlier lawful (.inr ⟨code, rfl⟩)
      outside).1

end Run

/-- The browser connects with a fresh ticket, catalog-api confirms its session, and a broadcast starts. -/
def joinedRun : List SocketInput :=
  [.broadcast, .proceed, .proceed, .gate (.answer 1 liveReply), .proceed, .connect (some "ticket"),
    .gate (.issue ⟨"1", "admin@example.org", 1767225600⟩ "bearer" "ticket")]

/-- The socket is a target of the broadcast, and it waits for its next check. -/
theorem joinedRun_contract :
    LiveSocketContract samplePlatform 30 ⟨10, 1767225010⟩ joinedRun ∧
      inBroadcastSet (socketAfter samplePlatform 30 ⟨10, 1767225010⟩ joinedRun).log = true ∧
        (socketAfter samplePlatform 30 ⟨10, 1767225010⟩ joinedRun).phase.nextCheck = some 40 :=
  ⟨liveSocket_contract samplePlatform 30 _ joinedRun, by decide +kernel, by decide +kernel⟩

end OperationsConsole.Session
