/-
This file runs the session gate over every order of its steps.
A validation is two steps, before and after its check, and any other step may run in between.
-/

import Mathlib.Algebra.Order.Ring.Rat
import Mathlib.Data.NNRat.Defs
import OperationsConsole.Library.Loop
import OperationsConsole.Session.Gate

namespace OperationsConsole.Session

open Library

/-- A check in flight remembers its bearer and the step that sent it. -/
structure Check where
  token : String
  sent : Nat
  deriving DecidableEq

/-- One step of the gate starts at an await point and ends at the next one. -/
inductive GateInput where
  | elapse (seconds : ℚ≥0)
  | validate (call : Nat) (token : String) (fresh : Bool)
  | answer (call : Nat) (reply : Reply)
  | forget (authorization : Option String)
  | issue (session : AdminSession) (token ticket : String)
  | redeem (ticket : Option String)

/-- catalog-api answered a check of one bearer at one instant. -/
structure Answer where
  token : String
  reply : Reply
  received : Instant

/-- The run holds the gate, its clocks, and the checks in flight. The last four fields record the
run: the number of its steps, its answers, the step of each bearer's last sign-out or invalid
answer, and the step that sent the check of each cached session. -/
structure GateRun where
  now : Instant
  gate : SessionGate
  checks : Dict Nat Check := Dict.empty
  steps : Nat := 0
  answers : List Answer := []
  revokedAt : Dict String Nat := Dict.empty
  storedFrom : Dict String Nat := Dict.empty

/-- Time moves both clocks together. -/
def Instant.elapse (now : Instant) (seconds : ℚ≥0) : Instant :=
  ⟨now.monotonic + seconds, now.wall + seconds⟩

namespace GateRun

section Step

variable (platform : Platform)

/-- A validation with an unused call number starts here. -/
def validate (run : GateRun) (call : Nat) (token : String) (fresh : Bool) : GateRun :=
  match run.checks.get? call with
  | some _ => run
  | none =>
      let started := run.gate.beforeCheck platform token fresh run.now
      match started.2 with
      | some _ => { run with gate := started.1 }
      | none => { run with gate := started.1, checks := run.checks.set call ⟨token, run.steps⟩ }

/-- The answer of a check in flight is stored here. -/
def answer (run : GateRun) (call : Nat) (reply : Reply) : GateRun :=
  match run.checks.get? call with
  | none => run
  | some check =>
      let key := platform.tokenDigest check.token
      let verdict := fetchSession platform reply run.now
      { run with
        gate := run.gate.afterCheck platform check.token verdict run.now
        checks := run.checks.erase call
        answers := ⟨check.token, reply, run.now⟩ :: run.answers
        revokedAt := match verdict with
          | .error .invalid => run.revokedAt.set key run.steps
          | _ => run.revokedAt
        storedFrom := match verdict with
          | .ok _ => run.storedFrom.set key check.sent
          | _ => run.storedFrom }

def forget (run : GateRun) (authorization : Option String) : GateRun :=
  { run with
    gate := run.gate.forget platform authorization
    revokedAt := match bearerToken authorization with
      | none => run.revokedAt
      | some token => run.revokedAt.set (platform.tokenDigest token) run.steps }

def act (run : GateRun) : GateInput → GateRun
  | .elapse seconds => { run with now := run.now.elapse seconds }
  | .validate call token fresh => run.validate platform call token fresh
  | .answer call reply => run.answer platform call reply
  | .forget authorization => run.forget platform authorization
  | .issue session token ticket =>
      let issued := run.gate.tickets.issue platform session token ticket run.now
      { run with gate := { run.gate with tickets := issued.1 } }
  | .redeem ticket =>
      let redeemed := run.gate.tickets.redeem platform ticket run.now
      { run with gate := { run.gate with tickets := redeemed.1 } }

def step (run : GateRun) (input : GateInput) : GateRun :=
  { run.act platform input with steps := run.steps + 1 }

/-- A step may return a verdict for a bearer to the caller of its validation. -/
def returned (run : GateRun) : GateInput → Option (String × Verdict)
  | .validate call token fresh =>
      match run.checks.get? call with
      | some _ => none
      | none => ((run.gate.beforeCheck platform token fresh run.now).2).map fun verdict =>
          (token, verdict)
  | .answer call reply =>
      (run.checks.get? call).map fun check => (check.token, fetchSession platform reply run.now)
  | _ => none

end Step

end GateRun

/-- The gate of the application starts with empty stores. -/
def SessionGate.configure (cacheSeconds : Seconds) : SessionGate :=
  { cache := SessionCache.new cacheSeconds maxCachedSessions }

/-- The run after the steps of a history, the newest first. -/
def gateAfter (platform : Platform) (cacheSeconds : Seconds) (start : Instant)
    (history : List GateInput) : GateRun :=
  after (GateRun.step platform) { now := start, gate := SessionGate.configure cacheSeconds } history

/-- A part of a store keeps every entry that has not expired. -/
def DropsExpired {ν : Type} (now : Seconds) (deadline : ν → Seconds) (before later : Dict String ν) :
    Prop :=
  ∃ keep, later.items = before.items.filter keep ∧
    ∀ item ∈ before.items, keep item = false → deadline item.2 ≤ now

theorem DropsExpired.refl {ν : Type} (now : Seconds) (deadline : ν → Seconds)
    (store : Dict String ν) : DropsExpired now deadline store store :=
  ⟨fun _ => true, by simp, by simp⟩

/-- The erased entry of a key was the stored one. -/
theorem DropsExpired.erase {ν : Type} (now : Seconds) (deadline : ν → Seconds)
    (store : Dict String ν) (key : String) (value : ν) (found : store.get? key = some value)
    (expired : deadline value ≤ now) : DropsExpired now deadline store (store.erase key) := by
  refine ⟨fun item => item.1 ≠ key, rfl, ?_⟩
  intro item member dropped
  have same : item.1 = key := by simpa using dropped
  have stored := (store.get?_eq_some_iff item.1 item.2).mpr member
  rw [same, found, Option.some.injEq] at stored
  rw [← stored]
  exact expired

/-- Dropping finds nothing that was not there. -/
theorem DropsExpired.get? {ν : Type} {now : Seconds} {deadline : ν → Seconds}
    {before later : Dict String ν} (drops : DropsExpired now deadline before later) (key : String)
    (value : ν) (found : later.get? key = some value) : before.get? key = some value := by
  obtain ⟨keep, items, _⟩ := drops
  rw [Dict.get?_eq_some_iff, items] at found
  rw [Dict.get?_eq_some_iff]
  exact (List.mem_filter.mp found).1

theorem DropsExpired.length_le {ν : Type} {now : Seconds} {deadline : ν → Seconds}
    {before later : Dict String ν} (drops : DropsExpired now deadline before later) :
    later.length ≤ before.length := by
  obtain ⟨keep, items, _⟩ := drops
  rw [Dict.length, Dict.length, items]
  exact List.length_filter_le _ _

/-- A cache lookup finds a fresh entry, or it drops at most an expired one. -/
theorem SessionCache.get_cases (cache : SessionCache) (key : String) (now : Instant) :
    (∃ deadline session, cache.entries.get? key = some (deadline, session) ∧
      now.monotonic < deadline ∧ cache.get key now = (cache, some session)) ∨
    ∃ entries, DropsExpired now.monotonic Prod.fst cache.entries entries ∧
      cache.get key now = ({ cache with entries := entries }, none) := by
  unfold SessionCache.get
  cases found : cache.entries.get? key with
  | none => exact .inr ⟨cache.entries, DropsExpired.refl _ _ _, rfl⟩
  | some entry =>
      obtain ⟨deadline, session⟩ := entry
      dsimp only
      split
      · rename_i expired
        exact .inr ⟨_, DropsExpired.erase _ _ _ _ _ found expired, rfl⟩
      · rename_i early
        exact .inl ⟨deadline, session, rfl, not_le.mp early, rfl⟩

/-- An invalid answer still holds, or it is absent after the lookup. -/
theorem InvalidAnswers.holds_cases (answers : InvalidAnswers) (key : String) (now : Instant) :
    (∃ deadline, answers.entries.get? key = some deadline ∧ now.monotonic < deadline ∧
      answers.holds key now = (answers, true)) ∨
    ∃ entries, DropsExpired now.monotonic id answers.entries entries ∧ entries.get? key = none ∧
      answers.holds key now = ({ answers with entries := entries }, false) := by
  unfold InvalidAnswers.holds
  cases found : answers.entries.get? key with
  | none => exact .inr ⟨answers.entries, DropsExpired.refl _ _ _, found, rfl⟩
  | some deadline =>
      dsimp only
      split
      · rename_i expired
        refine .inr ⟨_, DropsExpired.erase _ id _ _ _ found expired, ?_, rfl⟩
        rw [Dict.get?_erase, if_pos rfl]
      · rename_i early
        exact .inl ⟨deadline, rfl, not_le.mp early, rfl⟩

/-- The stores after the first part of a validation hold nothing new. -/
structure GateShrinks (now : Instant) (before later : SessionGate) : Prop where
  ttl : later.cache.ttlSeconds = before.cache.ttlSeconds
  size : later.cache.maxEntries = before.cache.maxEntries
  cache : DropsExpired now.monotonic Prod.fst before.cache.entries later.cache.entries
  invalidTtl : later.invalid.ttlSeconds = before.invalid.ttlSeconds
  invalidSize : later.invalid.maxEntries = before.invalid.maxEntries
  invalid : DropsExpired now.monotonic id before.invalid.entries later.invalid.entries
  tickets : later.tickets = before.tickets

/-- The first part of a validation returns a cached session, an invalid answer, or nothing. -/
theorem SessionGate.beforeCheck_cases (platform : Platform) (gate : SessionGate) (token : String)
    (fresh : Bool) (now : Instant) :
    GateShrinks now gate (gate.beforeCheck platform token fresh now).1 ∧
      ((∃ deadline session, gate.cache.entries.get? (platform.tokenDigest token) =
          some (deadline, session) ∧ now.monotonic < deadline ∧
          (gate.beforeCheck platform token fresh now).2 = some (.ok session)) ∨
        (∃ deadline, gate.invalid.entries.get? (platform.tokenDigest token) = some deadline ∧
          now.monotonic < deadline ∧
          (gate.beforeCheck platform token fresh now).2 = some (.error .invalid)) ∨
        (gate.beforeCheck platform token fresh now).1.invalid.entries.get?
            (platform.tokenDigest token) = none ∧
          (gate.beforeCheck platform token fresh now).2 = none) := by
  have looked : (∃ deadline session, gate.cache.entries.get? (platform.tokenDigest token) =
        some (deadline, session) ∧ now.monotonic < deadline ∧
        (if fresh then (gate.cache, none) else gate.cache.get (platform.tokenDigest token) now) =
          (gate.cache, some session)) ∨
      ∃ entries, DropsExpired now.monotonic Prod.fst gate.cache.entries entries ∧
        (if fresh then (gate.cache, none) else gate.cache.get (platform.tokenDigest token) now) =
          ({ gate.cache with entries := entries }, none) := by
    cases fresh with
    | true => exact .inr ⟨_, DropsExpired.refl _ _ _, rfl⟩
    | false => exact SessionCache.get_cases gate.cache (platform.tokenDigest token) now
  unfold SessionGate.beforeCheck
  dsimp only
  rcases looked with ⟨deadline, session, found, early, result⟩ | ⟨entries, drops, result⟩
  · rw [result]
    exact ⟨⟨rfl, rfl, DropsExpired.refl _ _ _, rfl, rfl, DropsExpired.refl _ _ _, rfl⟩,
      .inl ⟨deadline, session, found, early, rfl⟩⟩
  · rw [result]
    dsimp only
    rcases InvalidAnswers.holds_cases gate.invalid (platform.tokenDigest token) now with
      ⟨deadline, found, early, held⟩ | ⟨remaining, invalidDrops, absent, held⟩
    · rw [held]
      exact ⟨⟨rfl, rfl, drops, rfl, rfl, DropsExpired.refl _ _ _, rfl⟩,
        .inr (.inl ⟨deadline, found, early, rfl⟩)⟩
    · rw [held]
      exact ⟨⟨rfl, rfl, drops, rfl, rfl, invalidDrops, rfl⟩, .inr (.inr ⟨absent, rfl⟩)⟩

/-- A stored session is found under its key, and every other entry was there before. -/
theorem SessionCache.put_get? (cache : SessionCache) (key : String) (session : AdminSession)
    (now : Instant) (other : String) (entry : Seconds × AdminSession)
    (found : (cache.put key session now).entries.get? other = some entry) :
    other = key ∧ 0 < cache.lifetime session now ∧
        entry = (now.monotonic + cache.lifetime session now, session) ∨
      other ≠ key ∧ cache.entries.get? other = some entry := by
  unfold SessionCache.put at found
  split at found
  · exact .inr (Dict.get?_of_erase _ _ _ _ found)
  · rename_i positive
    rcases Dict.get?_of_push _ _ _ _ _ (Dict.get?_of_trim _ _ _ _ found) with ⟨same, new⟩ | old
    · exact .inl ⟨same, not_le.mp positive, new⟩
    · exact .inr old

/-- A new invalid answer is found under its key, and every other one was there before. -/
theorem InvalidAnswers.add_get? (answers : InvalidAnswers) (key : String) (now : Instant)
    (other : String) (deadline : Seconds)
    (found : (answers.add key now).entries.get? other = some deadline) :
    other = key ∧ deadline = now.monotonic + answers.ttlSeconds ∨
      other ≠ key ∧ answers.entries.get? other = some deadline :=
  Dict.get?_of_push _ _ _ _ _ (Dict.get?_of_trim _ _ _ _ found)

/-- The other sessions of the cache survive an eviction. -/
theorem SessionCache.evict_get? (cache : SessionCache) (key other : String)
    (entry : Seconds × AdminSession) (found : (cache.evict key).entries.get? other = some entry) :
    other ≠ key ∧ cache.entries.get? other = some entry :=
  Dict.get?_of_erase _ _ _ _ found

/-- No step changes the lifetimes and the sizes of the stores. -/
structure SameSettings (before later : SessionGate) : Prop where
  ttl : later.cache.ttlSeconds = before.cache.ttlSeconds
  size : later.cache.maxEntries = before.cache.maxEntries
  invalidTtl : later.invalid.ttlSeconds = before.invalid.ttlSeconds

theorem afterCheck_settings (platform : Platform) (gate : SessionGate) (token : String)
    (verdict : Verdict) (now : Instant) :
    SameSettings gate (gate.afterCheck platform token verdict now) := by
  unfold SessionGate.afterCheck
  cases verdict with
  | ok session =>
      dsimp only [SessionCache.put]
      split <;> exact ⟨rfl, rfl, rfl⟩
  | error reason => cases reason <;> exact ⟨rfl, rfl, rfl⟩

theorem step_settings (platform : Platform) (run : GateRun) (input : GateInput) :
    SameSettings run.gate (run.step platform input).gate := by
  cases input with
  | elapse seconds => exact ⟨rfl, rfl, rfl⟩
  | validate call token fresh =>
      have shrinks := (run.gate.beforeCheck_cases platform token fresh run.now).1
      unfold GateRun.step GateRun.act GateRun.validate
      dsimp only
      split
      · exact ⟨rfl, rfl, rfl⟩
      · split <;> exact ⟨shrinks.ttl, shrinks.size, shrinks.invalidTtl⟩
  | answer call reply =>
      unfold GateRun.step GateRun.act GateRun.answer
      dsimp only
      split
      · exact ⟨rfl, rfl, rfl⟩
      · exact afterCheck_settings platform run.gate _ _ run.now
  | forget authorization =>
      unfold GateRun.step GateRun.act GateRun.forget SessionGate.forget
      dsimp only
      split <;> exact ⟨rfl, rfl, rfl⟩
  | issue session token ticket => exact ⟨rfl, rfl, rfl⟩
  | redeem ticket => exact ⟨rfl, rfl, rfl⟩

/-- A run keeps the lifetimes and the sizes that its gate was configured with. -/
theorem gateAfter_settings (platform : Platform) (cacheSeconds : Seconds) (start : Instant)
    (history : List GateInput) :
    SameSettings (SessionGate.configure cacheSeconds)
      (gateAfter platform cacheSeconds start history).gate := by
  induction history with
  | nil => exact ⟨rfl, rfl, rfl⟩
  | cons input earlier ih =>
      have same := step_settings platform (gateAfter platform cacheSeconds start earlier) input
      exact ⟨same.ttl.trans ih.ttl, same.size.trans ih.size, same.invalidTtl.trans ih.invalidTtl⟩

end OperationsConsole.Session
