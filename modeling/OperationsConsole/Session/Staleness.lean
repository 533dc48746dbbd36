/-
This file bounds the age of every answer that the session gate reuses.
Each stored entry is backed by one recorded answer, and its deadline follows from that answer.
-/

import Mathlib.Tactic.Linarith
import OperationsConsole.Session.GateRun

namespace OperationsConsole.Session

open Library

/-- catalog-api answered 200 with a well-formed body for a session. -/
def WellFormedSession (platform : Platform) (reply : Reply) (session : AdminSession) : Prop :=
  ∃ body, reply = .response 200 body ∧ parseSession platform body = some session

/-- catalog-api refused a bearer with 401 or 403, or answered a session that had expired. -/
def Refused (platform : Platform) (answer : Answer) : Prop :=
  (∃ status body, answer.reply = .response status body ∧ (status = 401 ∨ status = 403)) ∨
    ∃ session, WellFormedSession platform answer.reply session ∧
      session.expiresAt ≤ answer.received.wall

/-- A check finds a live session exactly when it reads a well-formed one that has not expired. -/
theorem fetchSession_ok_iff (platform : Platform) (reply : Reply) (now : Instant)
    (session : AdminSession) :
    fetchSession platform reply now = .ok session ↔
      WellFormedSession platform reply session ∧ now.wall < session.expiresAt := by
  unfold fetchSession WellFormedSession
  cases reply with
  | unreachable => simp
  | response status body =>
      dsimp only
      split
      · rename_i refused
        constructor
        · intro impossible
          simp at impossible
        · intro ⟨⟨other, same, _⟩, _⟩
          rw [Reply.response.injEq] at same
          omega
      · split
        · rename_i failed
          constructor
          · intro impossible
            simp at impossible
          · intro ⟨⟨other, same, _⟩, _⟩
            rw [Reply.response.injEq] at same
            exact absurd same.1 failed
        · rename_i good
          have status200 : status = 200 := not_not.mp good
          cases parsed : parseSession platform body with
          | none =>
              constructor
              · intro impossible
                simp at impossible
              · intro ⟨⟨other, same, found⟩, _⟩
                rw [Reply.response.injEq] at same
                rw [← same.2, parsed] at found
                simp at found
          | some found =>
              dsimp only
              rw [AdminSession.secondsLeft]
              constructor
              · intro live
                split at live
                · simp at live
                · rename_i early
                  rw [Except.ok.injEq] at live
                  rw [← live]
                  refine ⟨⟨body, by rw [status200], parsed⟩, ?_⟩
                  linarith [not_le.mp early]
              · intro ⟨⟨other, same, again⟩, early⟩
                rw [Reply.response.injEq] at same
                rw [← same.2, parsed, Option.some.injEq] at again
                rw [again, if_neg (by linarith)]

/-- A check calls its bearer invalid exactly when catalog-api refused it. -/
theorem fetchSession_invalid_iff (platform : Platform) (answer : Answer) :
    fetchSession platform answer.reply answer.received = .error .invalid ↔
      Refused platform answer := by
  unfold fetchSession Refused WellFormedSession
  cases answer.reply with
  | unreachable => simp
  | response status body =>
      dsimp only
      split
      · rename_i refused
        exact iff_of_true rfl (.inl ⟨status, body, rfl, refused⟩)
      · rename_i accepted
        have other : ¬ ∃ code content, Reply.response status body = .response code content ∧
            (code = 401 ∨ code = 403) := by
          intro ⟨code, content, same, refused⟩
          rw [Reply.response.injEq] at same
          rw [← same.1] at refused
          exact accepted refused
        rw [or_iff_right other]
        split
        · rename_i failed
          constructor
          · intro impossible
            simp at impossible
          · intro ⟨session, ⟨content, same, _⟩, _⟩
            rw [Reply.response.injEq] at same
            exact absurd same.1 failed
        · rename_i good
          have status200 : status = 200 := not_not.mp good
          cases parsed : parseSession platform body with
          | none =>
              constructor
              · intro impossible
                simp at impossible
              · intro ⟨session, ⟨content, same, found⟩, _⟩
                rw [Reply.response.injEq] at same
                rw [← same.2, parsed] at found
                simp at found
          | some found =>
              dsimp only
              rw [AdminSession.secondsLeft]
              constructor
              · intro invalid
                split at invalid
                · rename_i late
                  exact ⟨found, ⟨body, by rw [status200], parsed⟩, by linarith⟩
                · simp at invalid
              · intro ⟨session, ⟨content, same, again⟩, late⟩
                rw [Reply.response.injEq] at same
                rw [← same.2, parsed, Option.some.injEq] at again
                rw [again, if_pos (by linarith)]

/-- Every entry of the stores is backed by an answer of the run. -/
structure Backed (platform : Platform) (run : GateRun) : Prop where
  cache : ∀ key deadline session,
    run.gate.cache.entries.get? key = some (deadline, session) →
      ∃ answer ∈ run.answers, platform.tokenDigest answer.token = key ∧
        WellFormedSession platform answer.reply session ∧
        deadline = answer.received.monotonic +
          min run.gate.cache.ttlSeconds (session.expiresAt - answer.received.wall)
  invalid : ∀ key deadline, run.gate.invalid.entries.get? key = some deadline →
    ∃ answer ∈ run.answers, platform.tokenDigest answer.token = key ∧ Refused platform answer ∧
      deadline = answer.received.monotonic + run.gate.invalid.ttlSeconds
  clocks : ∀ answer ∈ run.answers,
    answer.received.wall - answer.received.monotonic = run.now.wall - run.now.monotonic

section Step

variable (platform : Platform) (run : GateRun)

/-- A step that adds no entry keeps every entry backed. -/
theorem backed_of_sub (later : GateRun) (backed : Backed platform run)
    (settings : SameSettings run.gate later.gate)
    (cache : ∀ key entry, later.gate.cache.entries.get? key = some entry →
      run.gate.cache.entries.get? key = some entry)
    (invalid : ∀ key deadline, later.gate.invalid.entries.get? key = some deadline →
      run.gate.invalid.entries.get? key = some deadline)
    (answers : later.answers = run.answers)
    (clocks : later.now.wall - later.now.monotonic = run.now.wall - run.now.monotonic) :
    Backed platform later := by
  refine ⟨?_, ?_, ?_⟩
  · intro key deadline session found
    rw [answers, settings.ttl]
    exact backed.cache key deadline session (cache key _ found)
  · intro key deadline held
    rw [answers, settings.invalidTtl]
    exact backed.invalid key deadline (invalid key deadline held)
  · intro answer member
    rw [answers] at member
    rw [clocks]
    exact backed.clocks answer member

/-- A check that starts keeps every session backed by an answer. -/
theorem validate_backed (call : Nat) (token : String) (fresh : Bool)
    (backed : Backed platform run) :
    Backed platform (run.step platform (.validate call token fresh)) := by
  have settings := step_settings platform run (.validate call token fresh)
  have shrinks := (run.gate.beforeCheck_cases platform token fresh run.now).1
  revert settings
  unfold GateRun.step GateRun.act GateRun.validate
  dsimp only
  split
  · intro settings
    exact backed_of_sub platform run _ backed settings (fun _ _ found => found)
      (fun _ _ found => found) rfl rfl
  · split
    · intro settings
      exact backed_of_sub platform run _ backed settings
        (fun key entry => shrinks.cache.get? key entry)
        (fun key deadline => shrinks.invalid.get? key deadline) rfl rfl
    · intro settings
      exact backed_of_sub platform run _ backed settings
        (fun key entry => shrinks.cache.get? key entry)
        (fun key deadline => shrinks.invalid.get? key deadline) rfl rfl

/-- A session that is forgotten needs no answer. -/
theorem forget_backed (authorization : Option String) (backed : Backed platform run) :
    Backed platform (run.step platform (.forget authorization)) := by
  have settings := step_settings platform run (.forget authorization)
  revert settings
  unfold GateRun.step GateRun.act GateRun.forget SessionGate.forget
  dsimp only
  cases bearerToken authorization with
  | none =>
      intro settings
      exact backed_of_sub platform run _ backed settings (fun _ _ found => found)
        (fun _ _ found => found) rfl rfl
  | some token =>
      intro settings
      exact backed_of_sub platform run _ backed settings
        (fun _ _ found => (SessionCache.evict_get? _ _ _ _ found).2) (fun _ _ found => found) rfl rfl

/-- The new answer backs the entry it stores, and older answers still back the others. -/
theorem answer_backed (call : Nat) (reply : Reply) (backed : Backed platform run) :
    Backed platform (run.step platform (.answer call reply)) := by
  unfold GateRun.step GateRun.act GateRun.answer
  dsimp only
  cases pending : run.checks.get? call with
  | none => exact ⟨backed.cache, backed.invalid, backed.clocks⟩
  | some check =>
      dsimp only
      let added : Answer := ⟨check.token, reply, run.now⟩
      have clocks : ∀ answer ∈ added :: run.answers,
          answer.received.wall - answer.received.monotonic = run.now.wall - run.now.monotonic := by
        intro answer member
        rw [List.mem_cons] at member
        rcases member with same | member
        · rw [same]
        · exact backed.clocks answer member
      have cacheOld : ∀ key deadline session,
          run.gate.cache.entries.get? key = some (deadline, session) →
            ∃ answer ∈ added :: run.answers, platform.tokenDigest answer.token = key ∧
              WellFormedSession platform answer.reply session ∧
              deadline = answer.received.monotonic +
                min run.gate.cache.ttlSeconds (session.expiresAt - answer.received.wall) := by
        intro key deadline session found
        obtain ⟨answer, member, rest⟩ := backed.cache key deadline session found
        exact ⟨answer, List.mem_cons_of_mem _ member, rest⟩
      have invalidOld : ∀ key deadline, run.gate.invalid.entries.get? key = some deadline →
          ∃ answer ∈ added :: run.answers, platform.tokenDigest answer.token = key ∧
            Refused platform answer ∧
            deadline = answer.received.monotonic + run.gate.invalid.ttlSeconds := by
        intro key deadline held
        obtain ⟨answer, member, rest⟩ := backed.invalid key deadline held
        exact ⟨answer, List.mem_cons_of_mem _ member, rest⟩
      cases verdict : fetchSession platform reply run.now with
      | ok session =>
          have formed := ((fetchSession_ok_iff platform reply run.now session).mp verdict).1
          refine ⟨?_, invalidOld, clocks⟩
          intro key deadline stored found
          have same : (run.gate.cache.put (platform.tokenDigest check.token) session
              run.now).ttlSeconds = run.gate.cache.ttlSeconds :=
            (afterCheck_settings platform run.gate check.token (.ok session) run.now).ttl
          dsimp only [SessionGate.afterCheck]
          rw [same]
          rcases SessionCache.put_get? _ _ _ _ _ _ found with ⟨name, _, entry⟩ | ⟨_, old⟩
          · rw [Prod.mk.injEq] at entry
            refine ⟨added, List.mem_cons_self, name.symm, by rw [entry.2]; exact formed, ?_⟩
            rw [entry.1, entry.2]
            rfl
          · exact cacheOld key deadline stored old
      | error reason =>
          cases reason with
          | missing => exact ⟨cacheOld, invalidOld, clocks⟩
          | unavailable => exact ⟨cacheOld, invalidOld, clocks⟩
          | invalid =>
              refine ⟨?_, ?_, clocks⟩
              · intro key deadline stored found
                exact cacheOld key deadline stored (SessionCache.evict_get? _ _ _ _ found).2
              · intro key deadline held
                rcases InvalidAnswers.add_get? _ _ _ _ _ held with ⟨name, new⟩ | ⟨_, old⟩
                · refine ⟨added, List.mem_cons_self, name.symm, ?_, new⟩
                  exact (fetchSession_invalid_iff platform added).mp verdict
                · exact invalidOld key deadline old

/-- Every step keeps every entry backed. -/
theorem step_backed (input : GateInput) (backed : Backed platform run) :
    Backed platform (run.step platform input) := by
  have settings := step_settings platform run input
  cases input with
  | elapse seconds =>
      apply backed_of_sub platform run _ backed settings (fun _ _ found => found)
        (fun _ _ found => found) rfl
      exact add_sub_add_right_eq_sub _ _ _
  | validate call token fresh => exact validate_backed platform run call token fresh backed
  | answer call reply => exact answer_backed platform run call reply backed
  | forget authorization => exact forget_backed platform run authorization backed
  | issue session token ticket =>
      exact backed_of_sub platform run _ backed settings (fun _ _ found => found)
        (fun _ _ found => found) rfl rfl
  | redeem ticket =>
      exact backed_of_sub platform run _ backed settings (fun _ _ found => found)
        (fun _ _ found => found) rfl rfl

end Step

section Size

variable (platform : Platform) (run : GateRun)

/-- The cache of a run never holds more entries than its bound. -/
def CacheFits (run : GateRun) : Prop := run.gate.cache.entries.length ≤ run.gate.cache.maxEntries

/-- The cache makes room for every new session. -/
theorem put_fits (cache : SessionCache) (key : String) (session : AdminSession) (now : Instant)
    (fits : cache.entries.length ≤ cache.maxEntries) :
    (cache.put key session now).entries.length ≤ (cache.put key session now).maxEntries := by
  unfold SessionCache.put
  split
  · exact (cache.entries.length_erase_le key).trans fits
  · exact Dict.length_trim_le _ _

/-- Every step keeps the cache within its size. -/
theorem step_fits (input : GateInput) (fits : CacheFits run) :
    CacheFits (run.step platform input) := by
  cases input with
  | elapse seconds => exact fits
  | validate call token fresh =>
      have shrinks := (run.gate.beforeCheck_cases platform token fresh run.now).1
      have smaller : (run.gate.beforeCheck platform token fresh run.now).1.cache.entries.length ≤
          (run.gate.beforeCheck platform token fresh run.now).1.cache.maxEntries := by
        rw [shrinks.size]
        exact shrinks.cache.length_le.trans fits
      unfold GateRun.step GateRun.act GateRun.validate
      dsimp only
      split
      · exact fits
      · split <;> exact smaller
  | answer call reply =>
      unfold GateRun.step GateRun.act GateRun.answer
      dsimp only
      split
      · exact fits
      · rename_i check _
        cases fetchSession platform reply run.now with
        | ok session => exact put_fits _ _ _ _ fits
        | error reason =>
            cases reason with
            | missing => exact fits
            | unavailable => exact fits
            | invalid => exact (run.gate.cache.entries.length_erase_le _).trans fits
  | forget authorization =>
      unfold GateRun.step GateRun.act GateRun.forget SessionGate.forget
      dsimp only
      split
      · exact fits
      · exact (run.gate.cache.entries.length_erase_le _).trans fits
  | issue session token ticket => exact fits
  | redeem ticket => exact fits

end Size

/-- An answer was received in the very step that returns it, or less than an age before. -/
def RecentAnswer (input : GateInput) (run : GateRun) (age : Seconds) (answer : Answer) : Prop :=
  (∃ call, input = .answer call answer.reply ∧ answer.received = run.now) ∨
    run.now.monotonic - answer.received.monotonic < age

/-- The staleness of the gate is bounded over a run. -/
structure BoundedStaleness (platform : Platform) (cacheSeconds : Seconds) (start : Instant)
    (history : List GateInput) : Prop where
  sessions : ∀ input earlier, input :: earlier <:+ history → ∀ token session,
    (gateAfter platform cacheSeconds start earlier).returned platform input =
        some (token, .ok session) →
      let run := gateAfter platform cacheSeconds start (input :: earlier)
      (∃ answer ∈ run.answers, answer.token = token ∧
        WellFormedSession platform answer.reply session ∧
        RecentAnswer input run (min (max cacheSeconds 0) 30) answer) ∧
      run.now.wall < session.expiresAt
  size : ∀ part, part <:+ history →
    (gateAfter platform cacheSeconds start part).gate.cache.entries.length ≤ maxCachedSessions
  asking : ∀ call token fresh earlier, .validate call token fresh :: earlier <:+ history →
    let run := gateAfter platform cacheSeconds start earlier
    GateShrinks run.now run.gate
      (gateAfter platform cacheSeconds start (.validate call token fresh :: earlier)).gate
  unavailable : ∀ call reply earlier, .answer call reply :: earlier <:+ history → ∀ token,
    (gateAfter platform cacheSeconds start earlier).returned platform (.answer call reply) =
        some (token, .error .unavailable) →
      (gateAfter platform cacheSeconds start (.answer call reply :: earlier)).gate =
        (gateAfter platform cacheSeconds start earlier).gate
  rejections : ∀ input earlier, input :: earlier <:+ history → ∀ token,
    (gateAfter platform cacheSeconds start earlier).returned platform input =
        some (token, .error .invalid) →
      let run := gateAfter platform cacheSeconds start (input :: earlier)
      ∃ answer ∈ run.answers, answer.token = token ∧ Refused platform answer ∧
        RecentAnswer input run 10 answer

/-- These are the bearers that the steps of a history validate. -/
def bearers (history : List GateInput) : List String :=
  history.filterMap fun input =>
    match input with
    | .validate _ token _ => some token
    | _ => none

/-- Different bearers of a history have different digests. -/
def DistinctDigests (platform : Platform) (history : List GateInput) : Prop :=
  ∀ first ∈ bearers history, ∀ second ∈ bearers history,
    platform.tokenDigest first = platform.tokenDigest second → first = second

/-- The checks and the answers of a run are about these bearers. -/
structure AsksFor (run : GateRun) (names : List String) : Prop where
  checks : ∀ call check, run.checks.get? call = some check → check.token ∈ names
  answers : ∀ answer ∈ run.answers, answer.token ∈ names

section Run

variable (platform : Platform) (cacheSeconds : Seconds) (start : Instant)

/-- A check asks for a bearer of the run. -/
theorem validate_asksFor (run : GateRun) (names : List String) (asks : AsksFor run names)
    (call : Nat) (token : String) (fresh : Bool) (named : token ∈ names) :
    AsksFor (run.step platform (.validate call token fresh)) names := by
  unfold GateRun.step GateRun.act GateRun.validate
  dsimp only
  split
  · exact ⟨asks.checks, asks.answers⟩
  · split
    · exact ⟨asks.checks, asks.answers⟩
    · refine ⟨?_, asks.answers⟩
      intro other check pending
      change (run.checks.set call ⟨token, run.steps⟩).get? other = some check at pending
      rw [Dict.get?_set] at pending
      split at pending
      · rw [← Option.some.inj pending]
        exact named
      · exact asks.checks other check pending

/-- An answer asks for no new bearer. -/
theorem answer_asksFor (run : GateRun) (names : List String) (asks : AsksFor run names)
    (call : Nat) (reply : Reply) : AsksFor (run.step platform (.answer call reply)) names := by
  unfold GateRun.step GateRun.act GateRun.answer
  dsimp only
  split
  · exact ⟨asks.checks, asks.answers⟩
  · rename_i check pending
    constructor
    · intro other held kept
      change (run.checks.erase call).get? other = some held at kept
      rw [Dict.get?_erase] at kept
      split at kept
      · cases kept
      · exact asks.checks other held kept
    · intro answer member
      rcases List.mem_cons.mp member with same | earlier
      · rw [same]
        exact asks.checks call check pending
      · exact asks.answers answer earlier

/-- Every step asks for bearers of the run only. -/
theorem step_asksFor (run : GateRun) (names : List String) (asks : AsksFor run names)
    (input : GateInput)
    (named : ∀ call token fresh, input = .validate call token fresh → token ∈ names) :
    AsksFor (run.step platform input) names := by
  cases input with
  | validate call token fresh =>
      exact validate_asksFor platform run names asks call token fresh (named call token fresh rfl)
  | answer call reply => exact answer_asksFor platform run names asks call reply
  | elapse seconds => exact ⟨asks.checks, asks.answers⟩
  | forget authorization => exact ⟨asks.checks, asks.answers⟩
  | issue session token ticket => exact ⟨asks.checks, asks.answers⟩
  | redeem ticket => exact ⟨asks.checks, asks.answers⟩

/-- A run asks only about the bearers of its history. -/
theorem gateAfter_asksFor (names : List String) (history : List GateInput)
    (listed : ∀ token ∈ bearers history, token ∈ names) :
    AsksFor (gateAfter platform cacheSeconds start history) names := by
  induction history with
  | nil => exact ⟨by simp [gateAfter], by simp [gateAfter]⟩
  | cons input earlier ih =>
      have inside : ∀ token ∈ bearers earlier, token ∈ bearers (input :: earlier) := by
        intro token member
        unfold bearers
        rw [List.filterMap_cons]
        split
        · exact member
        · exact List.mem_cons_of_mem _ member
      have asks := ih fun token member => listed token (inside token member)
      apply step_asksFor platform _ names asks input
      intro call token fresh same
      apply listed
      rw [same]
      exact List.mem_cons_self

/-- The bearers of an earlier run are bearers of the run. -/
theorem bearers_of_suffix (part history : List GateInput) (suffix : part <:+ history)
    (token : String) (member : token ∈ bearers part) : token ∈ bearers history :=
  (suffix.filterMap _).subset member

/-- After every history each session in the cache is backed by an answer. -/
theorem gateAfter_backed (history : List GateInput) :
    Backed platform (gateAfter platform cacheSeconds start history) := by
  induction history with
  | nil => exact ⟨fun _ _ _ found => by simp [gateAfter, SessionGate.configure,
      SessionCache.new] at found, fun _ _ held => by simp [gateAfter, SessionGate.configure] at held,
      fun _ member => by simp [gateAfter] at member⟩
  | cons input earlier ih => exact step_backed platform _ input ih

/-- After every history the cache is within its size. -/
theorem gateAfter_fits (history : List GateInput) :
    CacheFits (gateAfter platform cacheSeconds start history) := by
  induction history with
  | nil => exact Nat.zero_le _
  | cons input earlier ih => exact step_fits platform _ input ih

/-- The step of a validation keeps the clocks and the recorded answers. -/
theorem validate_record (run : GateRun) (call : Nat) (token : String) (fresh : Bool) :
    (run.step platform (.validate call token fresh)).answers = run.answers ∧
      (run.step platform (.validate call token fresh)).now = run.now := by
  unfold GateRun.step GateRun.act GateRun.validate
  dsimp only
  split
  · exact ⟨rfl, rfl⟩
  · split <;> exact ⟨rfl, rfl⟩

/-- The step of an answer records it for the bearer of its check. -/
theorem answer_record (run : GateRun) (call : Nat) (reply : Reply) (check : Check)
    (pending : run.checks.get? call = some check) :
    (run.step platform (.answer call reply)).answers =
        ⟨check.token, reply, run.now⟩ :: run.answers ∧
      (run.step platform (.answer call reply)).now = run.now := by
  unfold GateRun.step GateRun.act GateRun.answer
  dsimp only
  rw [pending]
  exact ⟨rfl, rfl⟩

/-- A returned verdict comes from the stores or from the answer of this step. -/
theorem returned_cases (run : GateRun) (input : GateInput) (token : String) (verdict : Verdict)
    (returned : run.returned platform input = some (token, verdict)) :
    (∃ call fresh, input = .validate call token fresh ∧
        (run.gate.beforeCheck platform token fresh run.now).2 = some verdict) ∨
      ∃ call reply check, input = .answer call reply ∧ run.checks.get? call = some check ∧
        check.token = token ∧ fetchSession platform reply run.now = verdict := by
  cases input with
  | validate call other fresh =>
      rw [GateRun.returned] at returned
      split at returned
      · simp at returned
      · rw [Option.map_eq_some_iff] at returned
        obtain ⟨found, asked, same⟩ := returned
        rw [Prod.mk.injEq] at same
        refine .inl ⟨call, fresh, by rw [same.1], ?_⟩
        rw [← same.1, ← same.2]
        exact asked
  | answer call reply =>
      rw [GateRun.returned, Option.map_eq_some_iff] at returned
      obtain ⟨check, pending, same⟩ := returned
      rw [Prod.mk.injEq] at same
      exact .inr ⟨call, reply, check, rfl, pending, same.1, same.2⟩
  | elapse seconds => simp [GateRun.returned] at returned
  | forget authorization => simp [GateRun.returned] at returned
  | issue session other ticket => simp [GateRun.returned] at returned
  | redeem ticket => simp [GateRun.returned] at returned

/-- The digest of a validated bearer is not that of another answered bearer. -/
def Tells (run : GateRun) (input : GateInput) : Prop :=
  ∀ call token fresh, input = .validate call token fresh → ∀ answer ∈ run.answers,
    platform.tokenDigest answer.token = platform.tokenDigest token → answer.token = token

/-- Every returned session is backed by a recent answer and has not expired. -/
theorem returned_session (run : GateRun) (backed : Backed platform run)
    (ttl : run.gate.cache.ttlSeconds = min (max cacheSeconds 0) 30) (input : GateInput)
    (tells : Tells platform run input) (token : String) (session : AdminSession)
    (returned : run.returned platform input = some (token, .ok session)) :
    (∃ answer ∈ (run.step platform input).answers, answer.token = token ∧
      WellFormedSession platform answer.reply session ∧
      RecentAnswer input (run.step platform input) (min (max cacheSeconds 0) 30) answer) ∧
    (run.step platform input).now.wall < session.expiresAt := by
  rcases returned_cases platform run input token _ returned with
    ⟨call, fresh, same, asked⟩ | ⟨call, reply, check, same, pending, bearer, verdict⟩
  · obtain ⟨answers, now⟩ := validate_record platform run call token fresh
    rw [same, answers, now]
    rcases (run.gate.beforeCheck_cases platform token fresh run.now).2 with
      ⟨deadline, found, stored, early, result⟩ | ⟨_, _, _, rejected⟩ | ⟨_, silent⟩
    · rw [asked, Option.some.injEq, Except.ok.injEq] at result
      rw [← result] at stored
      obtain ⟨answer, member, name, formed, exact'⟩ := backed.cache _ _ _ stored
      have together := backed.clocks answer member
      rw [ttl] at exact'
      have capped := min_le_left (min (max cacheSeconds 0) 30)
        (session.expiresAt - answer.received.wall)
      have left := min_le_right (min (max cacheSeconds 0) 30)
        (session.expiresAt - answer.received.wall)
      refine ⟨⟨answer, member, tells call token fresh same answer member name, formed, .inr ?_⟩, ?_⟩
      · rw [now]
        linarith
      · linarith
    · rw [asked] at rejected
      simp at rejected
    · rw [asked] at silent
      simp at silent
  · obtain ⟨answers, now⟩ := answer_record platform run call reply check pending
    obtain ⟨formed, early⟩ := (fetchSession_ok_iff platform reply run.now session).mp verdict
    rw [same, answers, now]
    exact ⟨⟨_, List.mem_cons_self, bearer, formed, .inl ⟨call, rfl, now.symm⟩⟩, early⟩

/-- Every invalid rejection is backed by a recent refusal. -/
theorem returned_rejection (run : GateRun) (backed : Backed platform run)
    (ttl : run.gate.invalid.ttlSeconds = 10) (input : GateInput)
    (tells : Tells platform run input) (token : String)
    (returned : run.returned platform input = some (token, .error .invalid)) :
    ∃ answer ∈ (run.step platform input).answers, answer.token = token ∧
      Refused platform answer ∧ RecentAnswer input (run.step platform input) 10 answer := by
  rcases returned_cases platform run input token _ returned with
    ⟨call, fresh, same, asked⟩ | ⟨call, reply, check, same, pending, bearer, verdict⟩
  · obtain ⟨answers, now⟩ := validate_record platform run call token fresh
    rw [same, answers]
    rcases (run.gate.beforeCheck_cases platform token fresh run.now).2 with
      ⟨_, _, _, _, accepted⟩ | ⟨deadline, held, early, _⟩ | ⟨_, silent⟩
    · rw [asked] at accepted
      simp at accepted
    · obtain ⟨answer, member, name, refused, exact'⟩ := backed.invalid _ _ held
      refine ⟨answer, member, tells call token fresh same answer member name, refused, .inr ?_⟩
      rw [now]
      linarith
    · rw [asked] at silent
      simp at silent
  · obtain ⟨answers, now⟩ := answer_record platform run call reply check pending
    rw [same, answers]
    refine ⟨_, List.mem_cons_self, bearer, ?_, .inl ⟨call, rfl, now.symm⟩⟩
    exact (fetchSession_invalid_iff platform ⟨check.token, reply, run.now⟩).mp verdict

/-- The digests of the bearers of a history tell them apart at each of its steps. -/
theorem tells_of_distinct (history : List GateInput) (distinct : DistinctDigests platform history)
    (input : GateInput) (earlier : List GateInput) (suffix : input :: earlier <:+ history) :
    Tells platform (gateAfter platform cacheSeconds start earlier) input := by
  intro call token fresh same answer member digest
  have asks := gateAfter_asksFor platform cacheSeconds start (bearers history) earlier
    (bearers_of_suffix earlier history ((List.suffix_cons input earlier).trans suffix))
  refine distinct _ (asks.answers answer member) token ?_ digest
  apply bearers_of_suffix _ _ suffix
  rw [same]
  exact List.mem_cons_self

/-- The staleness of every run of the gate is bounded. -/
theorem gate_staleness_bounded (history : List GateInput)
    (distinct : DistinctDigests platform history) :
    BoundedStaleness platform cacheSeconds start history := by
  have tells := tells_of_distinct platform cacheSeconds start history distinct
  refine ⟨?_, ?_, ?_, ?_, ?_⟩
  · intro input earlier suffix token session returned
    exact returned_session platform cacheSeconds _
      (gateAfter_backed platform cacheSeconds start earlier)
      (gateAfter_settings platform cacheSeconds start earlier).ttl input (tells input earlier suffix)
      token session returned
  · intro part _
    have fits := gateAfter_fits platform cacheSeconds start part
    rw [CacheFits, (gateAfter_settings platform cacheSeconds start part).size] at fits
    exact fits
  · intro call token fresh earlier _
    have shrinks := ((gateAfter platform cacheSeconds start earlier).gate.beforeCheck_cases platform
      token fresh (gateAfter platform cacheSeconds start earlier).now).1
    change GateShrinks _ _ ((gateAfter platform cacheSeconds start earlier).step platform
      (.validate call token fresh)).gate
    unfold GateRun.step GateRun.act GateRun.validate
    dsimp only
    split
    · exact ⟨rfl, rfl, DropsExpired.refl _ _ _, rfl, rfl, DropsExpired.refl _ _ _, rfl⟩
    · split <;> exact shrinks
  · intro call reply earlier _ token returned
    change ((gateAfter platform cacheSeconds start earlier).step platform
      (.answer call reply)).gate = _
    rw [GateRun.returned, Option.map_eq_some_iff] at returned
    obtain ⟨check, pending, same⟩ := returned
    rw [Prod.mk.injEq] at same
    unfold GateRun.step GateRun.act GateRun.answer
    dsimp only
    rw [pending]
    dsimp only
    rw [same.2]
    rfl
  · intro input earlier suffix token returned
    exact returned_rejection platform _ (gateAfter_backed platform cacheSeconds start earlier)
      (gateAfter_settings platform cacheSeconds start earlier).invalidTtl input
      (tells input earlier suffix) token returned

end Run

/-- A session that was answered five seconds ago is returned from the cache. -/
theorem sampleRun_staleness : BoundedStaleness samplePlatform 30 ⟨10, 1767225010⟩
    [.validate 2 "bearer" false, .elapse 5, .answer 1 liveReply, .validate 1 "bearer" false] :=
  gate_staleness_bounded samplePlatform 30 _ _ fun _ _ _ _ same => samplePlatform_injective same

end OperationsConsole.Session
