/-
This file proves that the log of a live socket obeys one rule per event.
The phase of the endpoint explains the log, and every step keeps it explained.
-/

import Mathlib.Tactic.Linarith
import OperationsConsole.Session.LiveSocket
import OperationsConsole.Session.Staleness

namespace OperationsConsole.Session

open Library

/-- The log tells whether the socket is in the broadcast set. -/
def inBroadcastSet : List SocketEvent → Bool
  | [] => false
  | .joined :: _ => true
  | .left :: _ => false
  | .dropped :: _ => false
  | _ :: past => inBroadcastSet past

/-- The newest rejection of a log is the reason to close the socket. -/
def lastRejection : List SocketEvent → Option Reason
  | [] => none
  | .rejected reason :: _ => some reason
  | _ :: past => lastRejection past

/-- A ticket was redeemed, its bearer was then sent to catalog-api, and a live session came back. -/
def Admitted (platform : Platform) (token : String) (log : List SocketEvent) : Prop :=
  ∃ call answer session later middle older,
    log = later ++ .answered call answer :: middle ++ .asked call token :: older ∧
      .redeemed token ∈ older ∧ answer.token = token ∧
      WellFormedSession platform answer.reply session ∧ answer.received.wall < session.expiresAt

/-- The log of a socket obeys these rules: it joins after its admission and before it leaves, a
broadcast targets only a member, and it is closed outside the set with the code of its rejection. -/
def SocketRule (platform : Platform) : SocketEvent → List SocketEvent → Prop
  | .joined, past => .left ∉ past ∧ (∀ code, .closed code ∉ past) ∧
      ∃ token, Admitted platform token past
  | .targeted, past => inBroadcastSet past = true
  | .closed code, past => inBroadcastSet past = false ∧
      ∀ reason, lastRejection past = some reason → code = wsCloseCode reason
  | _, _ => True

/-- The log of a socket that has not joined has no exit, no close, and no rejection. -/
structure Outside (log : List SocketEvent) : Prop where
  joined : .joined ∉ log
  left : .left ∉ log
  closed : ∀ code, .closed code ∉ log
  rejection : lastRejection log = none

/-- The phase of the endpoint explains its log. -/
def PhaseFits (platform : Platform) (log : List SocketEvent) : Phase → Prop
  | .idle => Outside log
  | .accepting grant => Outside log ∧ ∀ found, grant = some found → .redeemed found.token ∈ log
  | .checking token call => Outside log ∧
      ∃ later older, log = later ++ .asked call token :: older ∧ .redeemed token ∈ older
  | .joining token _ => Outside log ∧ Admitted platform token log
  | .sendingMetrics _ _ => lastRejection log = none
  | .sendingBacklog _ _ => lastRejection log = none
  | .waiting _ _ => lastRejection log = none
  | .rechecking _ _ => lastRejection log = none
  | .refusing code => inBroadcastSet log = false ∧
      ∀ reason, lastRejection log = some reason → code = wsCloseCode reason
  | .leaving code => ∃ reason, lastRejection log = some reason ∧ code = wsCloseCode reason
  | .closing code => inBroadcastSet log = false ∧
      ∃ reason, lastRejection log = some reason ∧ code = wsCloseCode reason
  | .discarding => True
  | .ended => inBroadcastSet log = false

/-- A waiting loop ends its wait at the next check or at the expiry of its session. -/
def WaitFits (now : Instant) : Phase → Prop
  | .waiting schedule deadline =>
      deadline = min schedule.nextCheck (now.monotonic + schedule.session.secondsLeft now.wall)
  | _ => True

/-- The check that the endpoint waits for is in flight with its own bearer. -/
def CheckPending (checks : Dict Nat Check) : Phase → Prop
  | .checking token call => ∃ check, checks.get? call = some check ∧ check.token = token
  | .rechecking schedule call => ∃ check, checks.get? call = some check ∧
      check.token = schedule.token
  | _ => True

/-- These facts hold of the socket after every step. -/
structure SocketFits (platform : Platform) (live : LiveSocket) : Prop where
  lawful : Lawful (SocketRule platform) live.log
  member : live.connected = inBroadcastSet live.log
  phase : PhaseFits platform live.log live.phase
  wait : WaitFits live.gate.now live.phase
  pending : CheckPending live.gate.checks live.phase

section Log

variable (platform : Platform) (log : List SocketEvent)

/-- A socket that has not joined is outside the broadcast set. -/
theorem inBroadcastSet_of_not_joined (absent : .joined ∉ log) : inBroadcastSet log = false := by
  induction log with
  | nil => rfl
  | cons event past ih =>
      have before := ih fun member => absent (List.mem_cons_of_mem _ member)
      cases event with
      | joined => exact absurd List.mem_cons_self absent
      | targeted => exact before
      | dropped => rfl
      | left => rfl
      | redeemed token => exact before
      | asked call token => exact before
      | answered call answer => exact before
      | rejected reason => exact before
      | closed code => exact before
      | failed => exact before

/-- An event that neither joins nor ends a socket leaves it outside. -/
theorem Outside.cons (event : SocketEvent) (outside : Outside log) (joined : event ≠ .joined)
    (left : event ≠ .left) (closed : ∀ code, event ≠ .closed code)
    (rejection : lastRejection (event :: log) = lastRejection log) : Outside (event :: log) := by
  have older : ∀ other, event ≠ other → other ∉ log → other ∉ event :: log := by
    intro other different absent member
    rw [List.mem_cons] at member
    rcases member with same | member
    · exact different same.symm
    · exact absent member
  refine ⟨older _ joined outside.joined, older _ left outside.left, ?_, ?_⟩
  · intro code
    exact older _ (closed code) (outside.closed code)
  · exact rejection.trans outside.rejection

/-- An event about a member keeps the phase explained. -/
theorem phaseFits_member (event : SocketEvent) (phase : Phase) (member : inBroadcastSet log = true)
    (rejection : lastRejection (event :: log) = lastRejection log)
    (fits : PhaseFits platform log phase) : PhaseFits platform (event :: log) phase := by
  have never : ¬ Outside log := by
    intro outside
    rw [inBroadcastSet_of_not_joined log outside.joined] at member
    simp at member
  cases phase with
  | idle => exact absurd fits never
  | accepting grant => exact absurd fits.1 never
  | checking token call => exact absurd fits.1 never
  | joining token session => exact absurd fits.1 never
  | sendingMetrics token session => exact rejection.trans fits
  | sendingBacklog token session => exact rejection.trans fits
  | waiting schedule deadline => exact rejection.trans fits
  | rechecking schedule call => exact rejection.trans fits
  | refusing code =>
      rw [fits.1] at member
      simp at member
  | leaving code =>
      obtain ⟨reason, newest, same⟩ := fits
      exact ⟨reason, rejection.trans newest, same⟩
  | closing code =>
      rw [fits.1] at member
      simp at member
  | discarding => trivial
  | ended =>
      rw [show inBroadcastSet log = false from fits] at member
      simp at member

end Log

section Gate

variable (platform : Platform) (run : GateRun)

/-- Every step of the gate keeps the distance of its clocks. -/
theorem step_clocks (input : GateInput) :
    (run.step platform input).now.wall - (run.step platform input).now.monotonic =
      run.now.wall - run.now.monotonic := by
  cases input with
  | elapse seconds => exact add_sub_add_right_eq_sub _ _ _
  | validate call token fresh => rw [(validate_record platform run call token fresh).2]
  | answer call reply =>
      unfold GateRun.step GateRun.act GateRun.answer
      dsimp only
      split <;> rfl
  | forget authorization => rfl
  | issue session token ticket => rfl
  | redeem ticket => rfl

/-- An unused call has no check. -/
theorem unusedCall_unused : run.checks.get? run.unusedCall = none := by
  rw [Dict.get?_eq_none_iff]
  intro member
  have bounded : ∀ calls : List Nat, ∀ call ∈ calls, call ≤ calls.foldr max 0 := by
    intro calls
    induction calls with
    | nil => simp
    | cons first rest ih =>
        intro call member
        rw [List.foldr_cons]
        rw [List.mem_cons] at member
        rcases member with same | member
        · rw [same]
          exact le_max_left _ _
        · exact (ih call member).trans (le_max_right _ _)
  have small := bounded _ _ member
  unfold GateRun.unusedCall at small
  omega

/-- A check stays in flight until its own answer. -/
theorem step_pending (input : GateInput) (call : Nat) (check : Check)
    (pending : run.checks.get? call = some check) (other : ∀ reply, input ≠ .answer call reply) :
    (run.step platform input).checks.get? call = some check := by
  cases input with
  | elapse seconds => exact pending
  | validate number token fresh =>
      unfold GateRun.step GateRun.act GateRun.validate
      dsimp only
      split
      · exact pending
      · rename_i unused
        split
        · exact pending
        · dsimp only
          rw [Dict.get?_set, if_neg]
          · exact pending
          · intro same
            rw [same, unused] at pending
            simp at pending
  | answer number reply =>
      unfold GateRun.step GateRun.act GateRun.answer
      dsimp only
      split
      · exact pending
      · dsimp only
        rw [Dict.get?_erase, if_neg]
        · exact pending
        · intro same
          exact other reply (by rw [same])
  | forget authorization => exact pending
  | issue session token ticket => exact pending
  | redeem ticket => exact pending

/-- The answer to a pending check is for its bearer, and its verdict is read now. -/
theorem answerTo_some (input : GateInput) (call : Nat) (check : Check) (answer : Answer)
    (verdict : Verdict) (pending : run.checks.get? call = some check)
    (found : run.answerTo platform call input = some (answer, verdict)) :
    (∃ reply, input = .answer call reply ∧ answer = ⟨check.token, reply, run.now⟩ ∧
      fetchSession platform reply run.now = verdict) ∧
      (run.step platform input).now = run.now := by
  cases input with
  | answer number reply =>
      rw [GateRun.answerTo] at found
      split at found
      · rename_i same
        rw [same, GateRun.returned, pending] at found
        simp only [Option.map_some, Option.some.injEq, Prod.mk.injEq] at found
        rw [same]
        exact ⟨⟨reply, rfl, found.1.symm, found.2⟩,
          (answer_record platform run call reply check pending).2⟩
      · simp at found
  | elapse seconds => simp [GateRun.answerTo] at found
  | validate number token fresh => simp [GateRun.answerTo] at found
  | forget authorization => simp [GateRun.answerTo] at found
  | issue session token ticket => simp [GateRun.answerTo] at found
  | redeem ticket => simp [GateRun.answerTo] at found

/-- A step that does not answer a pending check is another step. -/
theorem answerTo_none (input : GateInput) (call : Nat) (check : Check)
    (pending : run.checks.get? call = some check)
    (silent : run.answerTo platform call input = none) (reply : Reply) :
    input ≠ .answer call reply := by
  intro same
  rw [same, GateRun.answerTo, if_pos rfl, GateRun.returned, pending] at silent
  simp at silent

end Gate

section Step

variable (platform : Platform) (live : LiveSocket)

/-- A fresh validation is rejected at once, or its check is in flight. -/
theorem validateToken_cases (token : String) (pending : Nat → Phase)
    (done : LiveSocket → Verdict → LiveSocket) :
    let call := live.gate.unusedCall
    let asked := { live with
      gate := live.gate.step platform (.validate call token true) }.record (.asked call token)
    live.validateToken platform token pending done = done asked (.error .invalid) ∨
      live.validateToken platform token pending done = asked.enter (pending call) ∧
        ∃ check, asked.gate.checks.get? call = some check ∧ check.token = token := by
  unfold LiveSocket.validateToken
  dsimp only
  have unused := unusedCall_unused live.gate
  have known : live.gate.returned platform (.validate live.gate.unusedCall token true) =
      ((live.gate.gate.beforeCheck platform token true live.gate.now).2).map fun verdict =>
        (token, verdict) := by
    rw [GateRun.returned, unused]
  cases held : (live.gate.gate.invalid.holds (platform.tokenDigest token) live.gate.now).2 with
  | true =>
      have rejected : (live.gate.gate.beforeCheck platform token true live.gate.now).2 =
          some (.error .invalid) := by
        simp [SessionGate.beforeCheck, held]
      rw [known, rejected]
      exact .inl rfl
  | false =>
      have silent : (live.gate.gate.beforeCheck platform token true live.gate.now).2 = none := by
        simp [SessionGate.beforeCheck, held]
      rw [known, silent]
      refine .inr ⟨rfl, ⟨token, live.gate.steps⟩, ?_, rfl⟩
      unfold LiveSocket.record GateRun.step GateRun.act GateRun.validate
      dsimp only
      rw [unused]
      dsimp only
      rw [silent]
      dsimp only
      rw [Dict.get?_set, if_pos rfl]

/-- A wait that starts before its end fits its schedule. -/
theorem receive_fits (schedule : Schedule) (lawful : Lawful (SocketRule platform) live.log)
    (member : live.connected = inBroadcastSet live.log) (accepted : lastRejection live.log = none)
    (later : live.gate.now.monotonic ≤ schedule.nextCheck)
    (alive : 0 ≤ schedule.session.secondsLeft live.gate.now.wall) :
    SocketFits platform (live.receive schedule) := by
  refine ⟨lawful, member, accepted, ?_, trivial⟩
  change live.gate.now.monotonic + max (min (schedule.nextCheck - live.gate.now.monotonic)
    (schedule.session.secondsLeft live.gate.now.wall)) 0 = min schedule.nextCheck
      (live.gate.now.monotonic + schedule.session.secondsLeft live.gate.now.wall)
  rw [max_eq_left (le_min (by linarith) alive), ← min_add_add_left, add_sub_cancel]

/-- The verdict of the first check admits the socket or refuses it. -/
theorem welcome_fits (token : String) (verdict : Verdict)
    (lawful : Lawful (SocketRule platform) live.log)
    (member : live.connected = inBroadcastSet live.log) (outside : Outside live.log)
    (admitted : ∀ session, verdict = .ok session → Admitted platform token live.log) :
    SocketFits platform (live.welcome token verdict) := by
  cases verdict with
  | ok session => exact ⟨lawful, member, ⟨outside, admitted session rfl⟩, trivial, trivial⟩
  | error reason =>
      refine ⟨⟨trivial, lawful⟩, member, ⟨?_, ?_⟩, trivial, trivial⟩
      · exact inBroadcastSet_of_not_joined live.log outside.joined
      · intro other newest
        change some reason = some other at newest
        rw [Option.some.injEq] at newest
        rw [newest]

/-- The verdict of a re-check moves the schedule or begins the exit of its reason. -/
theorem resume_fits (schedule : Schedule) (verdict : Verdict)
    (lawful : Lawful (SocketRule platform) live.log)
    (member : live.connected = inBroadcastSet live.log) (accepted : lastRejection live.log = none)
    (alive : ∀ session, verdict = .ok session → live.gate.now.wall < session.expiresAt) :
    SocketFits platform (live.resume schedule verdict) := by
  cases verdict with
  | ok session =>
      apply receive_fits platform live _ lawful member accepted
      · exact le_add_of_nonneg_right (by decide +kernel)
      · exact sub_nonneg.mpr (alive session rfl).le
  | error reason => exact ⟨⟨trivial, lawful⟩, member, ⟨reason, rfl, rfl⟩, trivial, trivial⟩

/-- The head of the loop keeps a member that has not been rejected explained. -/
theorem loopHead_fits (schedule : Schedule) (lawful : Lawful (SocketRule platform) live.log)
    (member : live.connected = inBroadcastSet live.log) (accepted : lastRejection live.log = none) :
    SocketFits platform (live.loopHead platform schedule) := by
  unfold LiveSocket.loopHead
  split
  · rcases validateToken_cases platform live schedule.token (.rechecking schedule)
      (LiveSocket.resume schedule) with rejected | ⟨asked, check, found, same⟩
    · rw [rejected]
      exact resume_fits platform _ schedule (.error .invalid) ⟨trivial, lawful⟩ member accepted
        (by simp)
    · rw [asked]
      exact ⟨⟨trivial, lawful⟩, member, accepted, trivial, check, found, same⟩
  · rename_i early
    rw [not_or, not_le, not_le] at early
    exact receive_fits platform live schedule lawful member accepted early.1.le early.2.le

/-- A step of the gate that does not answer the endpoint keeps the socket explained. -/
theorem moved_fits (input : GateInput) (fits : SocketFits platform live)
    (pending : CheckPending (live.gate.step platform input).checks live.phase) :
    SocketFits platform { live with gate := live.gate.step platform input } := by
  refine ⟨fits.lawful, fits.member, fits.phase, ?_, pending⟩
  have clocks := step_clocks platform live.gate input
  have wait := fits.wait
  dsimp only
  cases phase : live.phase with
  | waiting schedule deadline =>
      rw [phase, WaitFits] at wait
      rw [WaitFits, wait, AdminSession.secondsLeft, AdminSession.secondsLeft]
      congr 1
      linarith
  | _ => trivial

/-- A step of the gate keeps the socket in step with its log. -/
theorem hear_fits (input : GateInput) (fits : SocketFits platform live) :
    SocketFits platform (live.hear platform input) := by
  have moved := moved_fits platform live input fits
  have explained := fits.phase
  have waiting := fits.pending
  unfold LiveSocket.hear
  dsimp only
  cases phase : live.phase with
  | checking token call =>
      rw [phase] at explained waiting moved
      obtain ⟨check, pending, bearer⟩ := waiting
      dsimp only
      cases found : live.gate.answerTo platform call input with
      | none =>
          apply moved
          refine ⟨check, ?_, bearer⟩
          exact step_pending platform live.gate input call check pending
            (answerTo_none platform live.gate input call check pending found)
      | some result =>
          obtain ⟨answer, verdict⟩ := result
          obtain ⟨⟨reply, _, same, read⟩, _⟩ :=
            answerTo_some platform live.gate input call check answer verdict pending found
          obtain ⟨outside, later, older, split, redeemed⟩ := explained
          have answered : Outside (.answered call answer :: live.log) :=
            outside.cons _ _ (by simp) (by simp) (by simp) rfl
          dsimp only
          apply welcome_fits platform _ token verdict
          · exact ⟨trivial, fits.lawful⟩
          · exact fits.member
          · exact answered
          · intro session accepted
            rw [accepted] at read
            obtain ⟨formed, early⟩ :=
              (fetchSession_ok_iff platform reply live.gate.now session).mp read
            refine ⟨call, answer, session, [], later, older, congrArg _ split, redeemed, ?_, ?_, ?_⟩
            · rw [same]
              exact bearer
            · rw [same]
              exact formed
            · rw [same]
              exact early
  | rechecking schedule call =>
      rw [phase] at explained waiting moved
      obtain ⟨check, pending, bearer⟩ := waiting
      dsimp only
      cases found : live.gate.answerTo platform call input with
      | none =>
          apply moved
          refine ⟨check, ?_, bearer⟩
          exact step_pending platform live.gate input call check pending
            (answerTo_none platform live.gate input call check pending found)
      | some result =>
          obtain ⟨answer, verdict⟩ := result
          obtain ⟨⟨reply, _, same, read⟩, now⟩ :=
            answerTo_some platform live.gate input call check answer verdict pending found
          dsimp only
          apply resume_fits platform _ schedule verdict
          · exact ⟨trivial, fits.lawful⟩
          · exact fits.member
          · exact explained
          · intro session accepted
            rw [accepted] at read
            change (live.gate.step platform input).now.wall < session.expiresAt
            rw [now]
            exact ((fetchSession_ok_iff platform reply live.gate.now session).mp read).2
  | _ =>
      rw [phase] at moved
      exact moved trivial

/-- A request for a socket keeps it in step with its log. -/
theorem connect_fits (ticket : Option String) (fits : SocketFits platform live) :
    SocketFits platform (live.connect platform ticket) := by
  unfold LiveSocket.connect
  have explained := fits.phase
  cases phase : live.phase with
  | idle =>
      rw [phase] at explained
      dsimp only
      cases (live.gate.gate.tickets.redeem platform ticket live.gate.now).2 with
      | none =>
          exact ⟨fits.lawful, fits.member, ⟨explained, by simp⟩, trivial, trivial⟩
      | some grant =>
          have outside : Outside (.redeemed grant.token :: live.log) :=
            explained.cons _ _ (by simp) (by simp) (by simp) rfl
          refine ⟨⟨trivial, fits.lawful⟩, fits.member, ⟨outside, ?_⟩, trivial, trivial⟩
          intro found same
          rw [Option.some.injEq] at same
          rw [same]
          exact List.mem_cons_self
  | _ => exact fits

/-- The next part of a connection keeps the socket in step with its log. -/
theorem proceed_fits (fits : SocketFits platform live) :
    SocketFits platform (live.proceed platform) := by
  unfold LiveSocket.proceed
  have explained := fits.phase
  cases phase : live.phase with
  | accepting grant =>
      rw [phase] at explained
      obtain ⟨outside, redeemed⟩ := explained
      cases grant with
      | none =>
          refine ⟨fits.lawful, fits.member, ⟨?_, ?_⟩, trivial, trivial⟩
          · exact inBroadcastSet_of_not_joined live.log outside.joined
          · intro reason newest
            change lastRejection live.log = some reason at newest
            rw [outside.rejection] at newest
            simp at newest
      | some grant =>
          have asked : Outside (.asked live.gate.unusedCall grant.token :: live.log) :=
            outside.cons _ _ (by simp) (by simp) (by simp) rfl
          dsimp only
          rcases validateToken_cases platform live grant.token (.checking grant.token)
            (LiveSocket.welcome grant.token) with rejected | ⟨waits, check, found, same⟩
          · rw [rejected]
            apply welcome_fits platform _ grant.token (.error .invalid)
            · exact ⟨trivial, fits.lawful⟩
            · exact fits.member
            · exact asked
            · simp
          · rw [waits]
            refine ⟨⟨trivial, fits.lawful⟩, fits.member, ⟨asked, ?_⟩, trivial, check, found, same⟩
            exact ⟨[], live.log, rfl, redeemed grant rfl⟩
  | joining token session =>
      rw [phase] at explained
      obtain ⟨outside, admitted⟩ := explained
      have lawful : Lawful (SocketRule platform) (.joined :: live.log) :=
        ⟨⟨outside.left, outside.closed, token, admitted⟩, fits.lawful⟩
      cases metrics : live.latestMetrics with
      | true => exact ⟨lawful, rfl, outside.rejection, trivial, trivial⟩
      | false => exact ⟨lawful, rfl, outside.rejection, trivial, trivial⟩
  | sendingMetrics token session =>
      rw [phase] at explained
      exact ⟨fits.lawful, fits.member, explained, trivial, trivial⟩
  | sendingBacklog token session =>
      rw [phase] at explained
      exact loopHead_fits platform live _ fits.lawful fits.member explained
  | refusing code =>
      rw [phase] at explained
      exact ⟨⟨explained, fits.lawful⟩, fits.member, explained.1, trivial, trivial⟩
  | leaving code =>
      rw [phase] at explained
      exact ⟨⟨trivial, fits.lawful⟩, rfl, ⟨rfl, explained⟩, trivial, trivial⟩
  | closing code =>
      rw [phase] at explained
      obtain ⟨outside, reason, newest, same⟩ := explained
      refine ⟨⟨⟨outside, ?_⟩, fits.lawful⟩, fits.member, outside, trivial, trivial⟩
      intro other known
      rw [newest, Option.some.injEq] at known
      rw [same, known]
  | discarding => exact ⟨⟨trivial, fits.lawful⟩, rfl, rfl, trivial, trivial⟩
  | _ => exact fits

/-- A failed part keeps the socket in step with its log. -/
theorem fail_fits (fits : SocketFits platform live) : SocketFits platform live.fail := by
  unfold LiveSocket.fail
  have explained := fits.phase
  have outside : Outside live.log → inBroadcastSet live.log = false :=
    fun outside => inBroadcastSet_of_not_joined live.log outside.joined
  cases phase : live.phase with
  | accepting grant =>
      rw [phase] at explained
      exact ⟨⟨trivial, fits.lawful⟩, fits.member, outside explained.1, trivial, trivial⟩
  | checking token call =>
      rw [phase] at explained
      exact ⟨⟨trivial, fits.lawful⟩, fits.member, outside explained.1, trivial, trivial⟩
  | refusing code =>
      rw [phase] at explained
      exact ⟨⟨trivial, fits.lawful⟩, fits.member, explained.1, trivial, trivial⟩
  | sendingMetrics token session =>
      exact ⟨⟨trivial, fits.lawful⟩, fits.member, trivial, trivial, trivial⟩
  | sendingBacklog token session =>
      exact ⟨⟨trivial, fits.lawful⟩, fits.member, trivial, trivial, trivial⟩
  | waiting schedule deadline =>
      exact ⟨⟨trivial, fits.lawful⟩, fits.member, trivial, trivial, trivial⟩
  | rechecking schedule call =>
      exact ⟨⟨trivial, fits.lawful⟩, fits.member, trivial, trivial, trivial⟩
  | closing code => exact ⟨⟨trivial, fits.lawful⟩, fits.member, trivial, trivial, trivial⟩
  | _ => exact fits

/-- A wait that ends keeps the socket in step with its log. -/
theorem wake_fits (fits : SocketFits platform live) :
    SocketFits platform (live.wake platform) := by
  unfold LiveSocket.wake
  have explained := fits.phase
  cases phase : live.phase with
  | waiting schedule deadline =>
      rw [phase] at explained
      exact loopHead_fits platform live schedule fits.lawful fits.member explained
  | _ => exact fits

/-- A client that leaves keeps the socket in step with its log. -/
theorem disconnect_fits (fits : SocketFits platform live) : SocketFits platform live.disconnect := by
  unfold LiveSocket.disconnect
  cases phase : live.phase with
  | waiting schedule deadline => exact ⟨fits.lawful, fits.member, trivial, trivial, trivial⟩
  | _ => exact fits

/-- A broadcast keeps the socket in step with its log. -/
theorem broadcast_fits (fits : SocketFits platform live) : SocketFits platform live.broadcast := by
  unfold LiveSocket.broadcast
  split
  · rename_i connected
    have member := fits.member.symm.trans connected
    refine ⟨⟨member, fits.lawful⟩, fits.member, ?_, fits.wait, fits.pending⟩
    exact phaseFits_member platform live.log .targeted live.phase member rfl fits.phase
  · exact fits

/-- A failed send keeps the socket in step with its log. -/
theorem drop_fits (fits : SocketFits platform live) : SocketFits platform live.drop := by
  unfold LiveSocket.drop
  split
  · rename_i connected
    have member := fits.member.symm.trans connected
    refine ⟨⟨trivial, fits.lawful⟩, rfl, ?_, fits.wait, fits.pending⟩
    exact phaseFits_member platform live.log .dropped live.phase member rfl fits.phase
  · exact fits

/-- Every step keeps the socket explained. -/
theorem socketStep_fits (input : SocketInput) (fits : SocketFits platform live) :
    SocketFits platform (live.step platform input) := by
  cases input with
  | gate input => exact hear_fits platform live input fits
  | connect ticket => exact connect_fits platform live ticket fits
  | proceed => exact proceed_fits platform live fits
  | fail => exact fail_fits platform live fits
  | frame => exact wake_fits platform live fits
  | timeout => exact wake_fits platform live fits
  | disconnect => exact disconnect_fits platform live fits
  | broadcast => exact broadcast_fits platform live fits
  | drop => exact drop_fits platform live fits
  | collect => exact ⟨fits.lawful, fits.member, fits.phase, fits.wait, fits.pending⟩

end Step

/-- No broadcast targets a socket after it has left the set or has been closed. -/
theorem untargeted_after (platform : Platform) (later : List SocketEvent) (exit : SocketEvent)
    (past : List SocketEvent) (lawful : Lawful (SocketRule platform) (later ++ exit :: past))
    (leaves : exit = .left ∨ ∃ code, exit = .closed code)
    (outside : inBroadcastSet (exit :: past) = false) :
    .targeted ∉ later ∧ inBroadcastSet (later ++ exit :: past) = false := by
  induction later with
  | nil => exact ⟨List.not_mem_nil, outside⟩
  | cons event later ih =>
      obtain ⟨silent, absent⟩ := ih lawful.2
      have rule := lawful.1
      have older : .targeted ≠ event → .targeted ∉ event :: later := by
        intro different member
        rw [List.mem_cons] at member
        rcases member with same | member
        · exact different same
        · exact silent member
      have exited : exit ∈ later ++ exit :: past := by simp
      cases event with
      | targeted => exact absurd (rule.symm.trans absent) (by simp)
      | joined =>
          rcases leaves with same | ⟨code, same⟩
          · exact absurd (same ▸ exited) rule.1
          · exact absurd (same ▸ exited) (rule.2.1 code)
      | dropped => exact ⟨older (by simp), rfl⟩
      | left => exact ⟨older (by simp), rfl⟩
      | _ => exact ⟨older (by simp), absent⟩

end OperationsConsole.Session
