/-
This file decides when a sign-out wins over the checks that are in flight.
A check is late when a sign-out or an invalid answer of its bearer ran after it was sent.
-/

import OperationsConsole.Session.GateRun

namespace OperationsConsole.Session

open Library

/-- The cached session of a bearer comes from a check sent after its last revocation. -/
def StoredSince (run : GateRun) (key : String) : Prop :=
  ∃ sent, run.storedFrom.get? key = some sent ∧
    ∀ revoked, run.revokedAt.get? key = some revoked → revoked < sent

/-- A sign-out wins when no session of an earlier check is cached or returned. -/
structure SignOutWins (platform : Platform) (run : GateRun) : Prop where
  cached : ∀ key entry, run.gate.cache.entries.get? key = some entry → StoredSince run key
  exclusive : ∀ key entry, run.gate.cache.entries.get? key = some entry →
    run.gate.invalid.entries.get? key = none
  returned : ∀ token session,
    (run.gate.beforeCheck platform token false run.now).2 = some (.ok session) →
      StoredSince run (platform.tokenDigest token)

/-- No check is answered by a cacheable session after its bearer was revoked in the meantime. -/
def AnswersInTime (platform : Platform) (run : GateRun) : GateInput → Prop
  | .answer call reply => ∀ check, run.checks.get? call = some check → ∀ session,
      fetchSession platform reply run.now = .ok session →
        0 < run.gate.cache.lifetime session run.now →
          ∀ revoked, run.revokedAt.get? (platform.tokenDigest check.token) = some revoked →
            revoked < check.sent
  | _ => True

/-- The steps are numbered, and a held invalid answer is newer than every check in flight. -/
structure Numbered (platform : Platform) (run : GateRun) : Prop where
  sent : ∀ call check, run.checks.get? call = some check → check.sent < run.steps
  revoked : ∀ key step, run.revokedAt.get? key = some step → step < run.steps
  overtaken : ∀ call check deadline, run.checks.get? call = some check →
    run.gate.invalid.entries.get? (platform.tokenDigest check.token) = some deadline →
      ∃ step, run.revokedAt.get? (platform.tokenDigest check.token) = some step ∧ check.sent ≤ step

/-- The caching parts of the sign-out rule, which each step preserves. -/
structure CachedSince (run : GateRun) : Prop where
  cached : ∀ key entry, run.gate.cache.entries.get? key = some entry → StoredSince run key
  exclusive : ∀ key entry, run.gate.cache.entries.get? key = some entry →
    run.gate.invalid.entries.get? key = none

section Step

variable (platform : Platform) (run : GateRun)

/-- Steps that keep the stores or shrink them keep the sign-out rule. -/
theorem cachedSince_of_sub (before later : GateRun) (since : CachedSince before)
    (cache : ∀ key entry, later.gate.cache.entries.get? key = some entry →
      before.gate.cache.entries.get? key = some entry)
    (invalid : ∀ key deadline, later.gate.invalid.entries.get? key = some deadline →
      before.gate.invalid.entries.get? key = some deadline)
    (stored : later.storedFrom = before.storedFrom)
    (revoked : ∀ key entry, later.gate.cache.entries.get? key = some entry →
      later.revokedAt.get? key = before.revokedAt.get? key) : CachedSince later := by
  constructor
  · intro key entry found
    obtain ⟨sent, origin, newer⟩ := since.cached key entry (cache key entry found)
    refine ⟨sent, by rw [stored]; exact origin, ?_⟩
    rw [revoked key entry found]
    exact newer
  · intro key entry found
    have absent := since.exclusive key entry (cache key entry found)
    cases held : later.gate.invalid.entries.get? key with
    | none => rfl
    | some deadline =>
        rw [invalid key deadline held] at absent
        simp at absent

theorem validate_cachedSince (call : Nat) (token : String) (fresh : Bool)
    (since : CachedSince run) : CachedSince (run.validate platform call token fresh) := by
  unfold GateRun.validate
  split
  · exact since
  · have shrinks := (run.gate.beforeCheck_cases platform token fresh run.now).1
    dsimp only
    split
    · exact cachedSince_of_sub run _ since (fun key entry => shrinks.cache.get? key entry)
        (fun key deadline => shrinks.invalid.get? key deadline) rfl fun _ _ _ => rfl
    · exact cachedSince_of_sub run _ since (fun key entry => shrinks.cache.get? key entry)
        (fun key deadline => shrinks.invalid.get? key deadline) rfl fun _ _ _ => rfl

theorem forget_cachedSince (authorization : Option String) (since : CachedSince run) :
    CachedSince (run.forget platform authorization) := by
  unfold GateRun.forget SessionGate.forget
  cases bearerToken authorization with
  | none => exact since
  | some token =>
      apply cachedSince_of_sub run _ since
      · intro key entry found
        exact (SessionCache.evict_get? _ _ _ _ found).2
      · intro key deadline held
        exact held
      · rfl
      · intro key entry found
        dsimp only
        rw [Dict.get?_set, if_neg (SessionCache.evict_get? _ _ _ _ found).1]

/-- An answer in time keeps the sign-out rule. -/
theorem answer_cachedSince (call : Nat) (reply : Reply) (since : CachedSince run)
    (numbered : Numbered platform run) (timely : AnswersInTime platform run (.answer call reply)) :
    CachedSince (run.answer platform call reply) := by
  unfold GateRun.answer
  cases pending : run.checks.get? call with
  | none => exact since
  | some check =>
      dsimp only
      cases verdict : fetchSession platform reply run.now with
      | error reason =>
          cases reason with
          | missing =>
              exact cachedSince_of_sub run _ since (fun _ _ found => found)
                (fun _ _ found => found) rfl fun _ _ _ => rfl
          | unavailable =>
              exact cachedSince_of_sub run _ since (fun _ _ found => found)
                (fun _ _ found => found) rfl fun _ _ _ => rfl
          | invalid =>
              constructor
              · intro key entry found
                obtain ⟨different, old⟩ := SessionCache.evict_get? _ _ _ _ found
                obtain ⟨sent, origin, newer⟩ := since.cached key entry old
                refine ⟨sent, origin, ?_⟩
                rw [Dict.get?_set, if_neg different]
                exact newer
              · intro key entry found
                obtain ⟨different, old⟩ := SessionCache.evict_get? _ _ _ _ found
                have absent := since.exclusive key entry old
                cases held : (run.gate.invalid.add (platform.tokenDigest check.token)
                    run.now).entries.get? key with
                | none => exact held
                | some deadline =>
                    rcases InvalidAnswers.add_get? _ _ _ _ _ held with new | old
                    · exact absurd new.1 different
                    · rw [old.2] at absent
                      simp at absent
      | ok session =>
          constructor
          · intro key entry found
            rcases SessionCache.put_get? _ _ _ _ _ _ found with ⟨same, positive, _⟩ | ⟨different, old⟩
            · refine ⟨check.sent, ?_, ?_⟩
              · rw [Dict.get?_set, if_pos same]
              · intro revoked happened
                rw [same] at happened
                exact timely check pending session verdict positive revoked happened
            · obtain ⟨sent, origin, newer⟩ := since.cached key entry old
              refine ⟨sent, ?_, newer⟩
              rw [Dict.get?_set, if_neg different]
              exact origin
          · intro key entry found
            rcases SessionCache.put_get? _ _ _ _ _ _ found with ⟨same, positive, _⟩ | ⟨_, old⟩
            · cases held : run.gate.invalid.entries.get? (platform.tokenDigest check.token) with
              | none =>
                  rw [same]
                  exact held
              | some deadline =>
                  obtain ⟨step, revoked, order⟩ := numbered.overtaken call check deadline pending held
                  have newer := timely check pending session verdict positive step revoked
                  omega
            · exact since.exclusive key entry old

/-- Every timely step keeps the sign-out rule. -/
theorem step_cachedSince (input : GateInput) (since : CachedSince run)
    (numbered : Numbered platform run) (timely : AnswersInTime platform run input) :
    CachedSince (run.step platform input) := by
  have acted : CachedSince (run.act platform input) := by
    cases input with
    | elapse seconds => exact ⟨since.cached, since.exclusive⟩
    | validate call token fresh => exact validate_cachedSince platform run call token fresh since
    | answer call reply => exact answer_cachedSince platform run call reply since numbered timely
    | forget authorization => exact forget_cachedSince platform run authorization since
    | issue session token ticket => exact ⟨since.cached, since.exclusive⟩
    | redeem ticket => exact ⟨since.cached, since.exclusive⟩
  exact ⟨acted.cached, acted.exclusive⟩

/-- A step that sends no check, adds no invalid answer, and revokes no bearer keeps the numbers. -/
theorem numbered_of_sub (later : GateRun) (numbered : Numbered platform run)
    (steps : later.steps = run.steps + 1)
    (checks : ∀ call check, later.checks.get? call = some check → run.checks.get? call = some check)
    (invalid : ∀ key deadline, later.gate.invalid.entries.get? key = some deadline →
      run.gate.invalid.entries.get? key = some deadline)
    (revoked : later.revokedAt = run.revokedAt) : Numbered platform later := by
  refine ⟨?_, ?_, ?_⟩
  · intro call check pending
    have sent := numbered.sent call check (checks call check pending)
    omega
  · intro key step happened
    rw [revoked] at happened
    have before := numbered.revoked key step happened
    omega
  · intro call check deadline pending held
    rw [revoked]
    exact numbered.overtaken call check deadline (checks call check pending) (invalid _ _ held)

/-- A step that revokes a bearer and adds at most its invalid answer keeps the numbers. -/
theorem numbered_of_revoked (later : GateRun) (revokedKey : String)
    (numbered : Numbered platform run) (steps : later.steps = run.steps + 1)
    (checks : ∀ call check, later.checks.get? call = some check → run.checks.get? call = some check)
    (invalid : ∀ key deadline, later.gate.invalid.entries.get? key = some deadline →
      key = revokedKey ∨ run.gate.invalid.entries.get? key = some deadline)
    (revoked : later.revokedAt = run.revokedAt.set revokedKey run.steps) :
    Numbered platform later := by
  refine ⟨?_, ?_, ?_⟩
  · intro call check pending
    have sent := numbered.sent call check (checks call check pending)
    omega
  · intro key step happened
    rw [revoked] at happened
    rcases Dict.get?_of_set _ _ _ _ _ happened with ⟨_, now⟩ | ⟨_, before⟩
    · omega
    · have old := numbered.revoked key step before
      omega
  · intro call check deadline pending held
    have sent := numbered.sent call check (checks call check pending)
    rw [revoked, Dict.get?_set]
    split
    · exact ⟨run.steps, rfl, Nat.le_of_lt sent⟩
    · rename_i different
      rcases invalid _ _ held with same | before
      · exact absurd same different
      · exact numbered.overtaken call check deadline (checks call check pending) before

theorem validate_numbered (call : Nat) (token : String) (fresh : Bool)
    (numbered : Numbered platform run) :
    Numbered platform (run.step platform (.validate call token fresh)) := by
  unfold GateRun.step GateRun.act GateRun.validate
  dsimp only
  split
  · exact numbered_of_sub platform run _ numbered rfl (fun _ _ found => found)
      (fun _ _ found => found) rfl
  · obtain ⟨shrinks, outcome⟩ := run.gate.beforeCheck_cases platform token fresh run.now
    have heldBefore : ∀ key deadline,
        (run.gate.beforeCheck platform token fresh run.now).1.invalid.entries.get? key =
          some deadline → run.gate.invalid.entries.get? key = some deadline :=
      fun key deadline => shrinks.invalid.get? key deadline
    split
    · exact numbered_of_sub platform run _ numbered rfl (fun _ _ found => found) heldBefore rfl
    · rename_i silent
      have absent : (run.gate.beforeCheck platform token fresh run.now).1.invalid.entries.get?
          (platform.tokenDigest token) = none := by
        rcases outcome with ⟨_, _, _, _, some'⟩ | ⟨_, _, _, some'⟩ | ⟨absent, _⟩
        · rw [silent] at some'
          simp at some'
        · rw [silent] at some'
          simp at some'
        · exact absent
      refine ⟨?_, ?_, ?_⟩
      · intro other check pending
        rcases Dict.get?_of_set _ _ _ _ _ pending with ⟨_, sent⟩ | ⟨_, before⟩
        · rw [sent]
          exact Nat.lt_succ_self _
        · exact Nat.lt_succ_of_lt (numbered.sent other check before)
      · intro key step happened
        exact Nat.lt_succ_of_lt (numbered.revoked key step happened)
      · intro other check deadline pending held
        rcases Dict.get?_of_set _ _ _ _ _ pending with ⟨_, sent⟩ | ⟨_, before⟩
        · rw [sent] at held
          dsimp only at held
          rw [absent] at held
          simp at held
        · exact numbered.overtaken other check deadline before (heldBefore _ _ held)

theorem forget_numbered (authorization : Option String) (numbered : Numbered platform run) :
    Numbered platform (run.step platform (.forget authorization)) := by
  unfold GateRun.step GateRun.act GateRun.forget SessionGate.forget
  dsimp only
  cases bearerToken authorization with
  | none =>
      exact numbered_of_sub platform run _ numbered rfl (fun _ _ found => found)
        (fun _ _ found => found) rfl
  | some token =>
      exact numbered_of_revoked platform run _ (platform.tokenDigest token) numbered rfl
        (fun _ _ found => found) (fun _ _ found => .inr found) rfl

theorem answer_numbered (call : Nat) (reply : Reply) (numbered : Numbered platform run) :
    Numbered platform (run.step platform (.answer call reply)) := by
  unfold GateRun.step GateRun.act GateRun.answer
  dsimp only
  cases pending : run.checks.get? call with
  | none =>
      exact numbered_of_sub platform run _ numbered rfl (fun _ _ found => found)
        (fun _ _ found => found) rfl
  | some check =>
      dsimp only
      have waiting : ∀ other found, (run.checks.erase call).get? other = some found →
          run.checks.get? other = some found :=
        fun other found waits => (Dict.get?_of_erase _ _ _ _ waits).2
      cases fetchSession platform reply run.now with
      | ok session =>
          exact numbered_of_sub platform run _ numbered rfl waiting (fun _ _ found => found) rfl
      | error reason =>
          cases reason with
          | missing =>
              exact numbered_of_sub platform run _ numbered rfl waiting (fun _ _ found => found) rfl
          | unavailable =>
              exact numbered_of_sub platform run _ numbered rfl waiting (fun _ _ found => found) rfl
          | invalid =>
              apply numbered_of_revoked platform run _ (platform.tokenDigest check.token) numbered
              · rfl
              · exact waiting
              · intro key deadline held
                exact (InvalidAnswers.add_get? _ _ _ _ _ held).imp And.left And.right
              · rfl

/-- Every step keeps the numbers. -/
theorem step_numbered (input : GateInput) (numbered : Numbered platform run) :
    Numbered platform (run.step platform input) := by
  cases input with
  | elapse seconds =>
      exact numbered_of_sub platform run _ numbered rfl (fun _ _ found => found)
        (fun _ _ found => found) rfl
  | validate call token fresh => exact validate_numbered platform run call token fresh numbered
  | answer call reply => exact answer_numbered platform run call reply numbered
  | forget authorization => exact forget_numbered platform run authorization numbered
  | issue session token ticket =>
      exact numbered_of_sub platform run _ numbered rfl (fun _ _ found => found)
        (fun _ _ found => found) rfl
  | redeem ticket =>
      exact numbered_of_sub platform run _ numbered rfl (fun _ _ found => found)
        (fun _ _ found => found) rfl

end Step

section Run

variable (platform : Platform) (cacheSeconds : Seconds) (start : Instant)

theorem gateAfter_numbered (history : List GateInput) :
    Numbered platform (gateAfter platform cacheSeconds start history) := by
  induction history with
  | nil => exact ⟨fun _ _ found => by simp [gateAfter] at found,
      fun _ _ found => by simp [gateAfter] at found,
      fun _ _ _ found => by simp [gateAfter] at found⟩
  | cons input earlier ih => exact step_numbered platform _ input ih

/-- A run whose answers are all in time caches only sessions of later checks. -/
theorem gateAfter_cachedSince (history : List GateInput)
    (timely : Guarded (GateRun.step platform)
      { now := start, gate := SessionGate.configure cacheSeconds } (AnswersInTime platform) history) :
    CachedSince (gateAfter platform cacheSeconds start history) := by
  induction history with
  | nil =>
      constructor <;>
        · intro key entry found
          simp [gateAfter, SessionGate.configure, SessionCache.new] at found
  | cons input earlier ih =>
      exact step_cachedSince platform _ input (ih timely.1)
        (gateAfter_numbered platform cacheSeconds start earlier) timely.2

/-- A cacheable answer is stored in a cache with room. -/
theorem stored_answer (run : GateRun) (call : Nat) (reply : Reply) (check : Check)
    (session : AdminSession) (pending : run.checks.get? call = some check)
    (verdict : fetchSession platform reply run.now = .ok session)
    (positive : 0 < run.gate.cache.lifetime session run.now) (room : 0 < run.gate.cache.maxEntries) :
    let later := run.step platform (.answer call reply)
    let key := platform.tokenDigest check.token
    (∃ entry, later.gate.cache.entries.get? key = some entry) ∧
      later.storedFrom.get? key = some check.sent ∧ later.revokedAt = run.revokedAt := by
  unfold GateRun.step GateRun.act GateRun.answer
  dsimp only
  rw [pending]
  dsimp only
  rw [verdict]
  refine ⟨?_, ?_, rfl⟩
  · refine ⟨(run.now.monotonic + run.gate.cache.lifetime session run.now, session), ?_⟩
    dsimp only [SessionGate.afterCheck, SessionCache.put]
    rw [if_neg (not_le.mpr positive)]
    exact Dict.get?_trim_push _ _ _ _ room
  · dsimp only
    rw [Dict.get?_set, if_pos rfl]

/-- A sign-out wins in every state of a run exactly when every answer of the run is in time. -/
theorem signOut_wins_iff (history : List GateInput) :
    (∀ part, part <:+ history → SignOutWins platform (gateAfter platform cacheSeconds start part)) ↔
      Guarded (GateRun.step platform)
        { now := start, gate := SessionGate.configure cacheSeconds } (AnswersInTime platform)
        history := by
  constructor
  · intro wins
    rw [guarded_iff_forall]
    intro input earlier suffix
    cases input with
    | answer call reply =>
        intro check pending session verdict positive revoked happened
        have room : 0 < (gateAfter platform cacheSeconds start earlier).gate.cache.maxEntries := by
          rw [(gateAfter_settings platform cacheSeconds start earlier).size]
          exact Nat.zero_lt_succ 1023
        obtain ⟨⟨entry, found⟩, stored, same⟩ := stored_answer platform
          (gateAfter platform cacheSeconds start earlier) call reply check session pending
          verdict positive room
        obtain ⟨sent, origin, newer⟩ :=
          (wins (.answer call reply :: earlier) suffix).cached _ _ found
        have equal : check.sent = sent := by
          have both := stored.symm.trans origin
          rwa [Option.some.injEq] at both
        rw [equal]
        apply newer
        rw [show (gateAfter platform cacheSeconds start (.answer call reply :: earlier)).revokedAt =
          (gateAfter platform cacheSeconds start earlier).revokedAt from same]
        exact happened
    | elapse seconds => trivial
    | validate call token fresh => trivial
    | forget authorization => trivial
    | issue session token ticket => trivial
    | redeem ticket => trivial
  · intro timely part suffix
    have since := gateAfter_cachedSince platform cacheSeconds start part
      (Guarded.suffix _ _ _ history part timely suffix)
    refine ⟨since.cached, since.exclusive, ?_⟩
    intro token session returned
    rcases (SessionGate.beforeCheck_cases platform
      (gateAfter platform cacheSeconds start part).gate token false
      (gateAfter platform cacheSeconds start part).now).2 with
      ⟨deadline, other, found, _, _⟩ | ⟨_, _, _, rejected⟩ | ⟨_, silent⟩
    · exact since.cached _ _ found
    · rw [returned] at rejected
      simp at rejected
    · rw [returned] at silent
      simp at silent

end Run

/-- This run signs the bearer out while its check is in flight. -/
def overtakenRun : List GateInput :=
  [.answer 1 liveReply, .forget (some "Bearer bearer"), .validate 1 "bearer" false]

/-- A sign-out loses to a check that was sent before it and answered after it. -/
theorem overtaken_check_wins :
    ¬ ∀ part, part <:+ overtakenRun →
      SignOutWins samplePlatform (gateAfter samplePlatform 30 ⟨10, 1767225010⟩ part) := by
  intro wins
  have returned : ((gateAfter samplePlatform 30 ⟨10, 1767225010⟩ overtakenRun).gate.beforeCheck
      samplePlatform "bearer" false ⟨10, 1767225010⟩).2 =
        some (.ok ⟨"1", "admin@example.org", 1767225600⟩) := by
    decide +kernel
  obtain ⟨sent, origin, newer⟩ := (wins overtakenRun List.suffix_rfl).returned "bearer" _ returned
  have stored : (gateAfter samplePlatform 30 ⟨10, 1767225010⟩ overtakenRun).storedFrom.get?
      (samplePlatform.tokenDigest "bearer") = some 0 := by
    decide +kernel
  have revoked : (gateAfter samplePlatform 30 ⟨10, 1767225010⟩ overtakenRun).revokedAt.get?
      (samplePlatform.tokenDigest "bearer") = some 1 := by
    decide +kernel
  rw [stored, Option.some.injEq] at origin
  have order := newer 1 revoked
  omega

end OperationsConsole.Session
