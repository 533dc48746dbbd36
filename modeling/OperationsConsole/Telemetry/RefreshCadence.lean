/-
This file finds when every export cycle refreshes the snapshot of the graph store once.
The lifetime of a snapshot counts from before its refresh.
-/

import Mathlib.Algebra.Order.BigOperators.Group.List
import Mathlib.Tactic.Linarith
import OperationsConsole.Telemetry.GraphGauges

namespace OperationsConsole.Telemetry

open Library

section Lifetime

variable (float : String → Option Double) (setting : Option String) (interval : ℚ)

theorem exportIntervalS_pos (set : exportIntervalS float setting = .finite interval) :
    0 < interval := by
  unfold exportIntervalS exportIntervalMs at set
  dsimp only at set
  split at set
  · have value := Double.finite.inj set
    rw [← value]
    norm_num
  · rename_i above
    cases known : (float (setting.getD "")).getD (.finite 60000) with
    | finite value =>
        rw [known] at set above
        have scaled := Double.finite.inj set
        have positive : 0 < value := by
          by_contra low
          apply above
          rcases lt_or_eq_of_le (not_lt.mp low) with less | zero
          · simp [Double.le, Double.lt, less]
          · simp [Double.le, zero]
        rw [← scaled]
        exact div_pos positive (by norm_num)
    | infinite negative =>
        rw [known] at set
        exact absurd set (by simp [divided])
    | nan =>
        rw [known] at set
        exact absurd set (by simp [divided])

/-- A snapshot lives for half an interval, but not less than a second. -/
theorem refreshTtlS_eq (set : exportIntervalS float setting = .finite interval) :
    refreshTtlS float setting = .finite (max 1 (interval / 2)) := by
  unfold refreshTtlS
  rw [set]
  have compared : (Double.finite 1).lt (.finite (interval / 2)) = decide (1 < interval / 2) := rfl
  change (if (Double.finite 1).lt (.finite (interval / 2)) then Double.finite (interval / 2)
    else .finite 1) = _
  rw [compared]
  by_cases longer : 1 < interval / 2
  · rw [if_pos (decide_eq_true longer), max_eq_right longer.le]
  · rw [if_neg (by simpa using longer), max_eq_left (not_lt.mp longer)]

end Lifetime

section Reads

variable (lifetime : ℚ)

theorem read_fresh (now : ℚ) (refresh : Refresh) (held : Neo4jSnapshot) (since : ℚ)
    (fresh : now - since < lifetime) :
    GaugeSource.read (.finite lifetime) now refresh ⟨some held, since⟩ =
      (⟨some held, since⟩, held, false) :=
  if_pos (decide_eq_true fresh)

/-- A source is stale if it has no snapshot or one that has outlived its lifetime. -/
def GaugeSource.Stale (now : ℚ) (source : GaugeSource) : Prop :=
  source.snapshot = none ∨ lifetime ≤ now - source.refreshedAt

theorem read_stale (now : ℚ) (refresh : Refresh) (source : GaugeSource)
    (stale : source.Stale lifetime now) :
    source.read (.finite lifetime) now refresh =
      (⟨some refresh.snapshot, now⟩, refresh.snapshot, true) := by
  unfold GaugeSource.read
  cases held : source.snapshot with
  | none => rfl
  | some snapshot =>
      have old := stale.resolve_left (by rw [held]; exact Option.some_ne_none _)
      exact if_neg fun fresh => absurd (of_decide_eq_true fresh) (not_lt.mpr old)

/-- The pauses of the callbacks go by until the last of them runs. -/
def waiting (callbacks : List Callback) : ℚ := (callbacks.map Callback.pause).sum

theorem waiting_nonneg (callbacks : List Callback) : 0 ≤ waiting callbacks := by
  apply List.sum_nonneg
  intro pause member
  obtain ⟨callback, _, rfl⟩ := List.mem_map.mp member
  exact callback.nonnegative

theorem observe_fresh (held : Neo4jSnapshot) (since clock : ℚ) (callback : Callback)
    (fresh : clock + callback.pause - since < lifetime) :
    observe (.finite lifetime) ⟨⟨some held, since⟩, clock⟩ callback =
      (⟨⟨some held, since⟩, clock + callback.pause⟩, ⟨callback.gauge, held, false⟩) := by
  unfold observe
  dsimp only
  rw [read_fresh lifetime _ callback.refresh held since fresh]
  rfl

theorem observe_stale (source : GaugeSource) (clock : ℚ) (callback : Callback)
    (stale : source.Stale lifetime (clock + callback.pause)) :
    observe (.finite lifetime) ⟨source, clock⟩ callback =
      (⟨⟨some callback.refresh.snapshot, clock + callback.pause⟩,
          clock + callback.pause + callback.refresh.duration⟩,
        ⟨callback.gauge, callback.refresh.snapshot, true⟩) := by
  unfold observe
  dsimp only
  rw [read_stale lifetime _ callback.refresh source stale]
  rfl

/-- All callbacks within the lifetime share the snapshot. -/
theorem observe_within (held : Neo4jSnapshot) (since clock : ℚ) (callbacks : List Callback)
    (within : clock + waiting callbacks - since < lifetime) :
    (loop (observe (.finite lifetime)) ⟨⟨some held, since⟩, clock⟩ callbacks).1.source =
        ⟨some held, since⟩ ∧
      ∀ reading ∈ (loop (observe (.finite lifetime)) ⟨⟨some held, since⟩, clock⟩ callbacks).2,
        reading.snapshot = held ∧ reading.refreshed = false := by
  induction callbacks generalizing clock with
  | nil => exact ⟨rfl, fun _ member => absurd member List.not_mem_nil⟩
  | cons callback callbacks ih =>
      have rest := waiting_nonneg callbacks
      have total : waiting (callback :: callbacks) = callback.pause + waiting callbacks :=
        List.sum_cons
      rw [total] at within
      have step := observe_fresh lifetime held since clock callback
        (by linarith only [within, rest])
      obtain ⟨kept, shared⟩ := ih (clock + callback.pause) (by linarith only [within])
      simp only [loop, step]
      refine ⟨kept, ?_⟩
      intro reading member
      rcases List.mem_cons.mp member with rfl | later
      · exact ⟨rfl, rfl⟩
      · exact shared reading later

/-- A callback after the lifetime refreshes, if no earlier one does. -/
theorem observe_beyond (held : Neo4jSnapshot) (since clock : ℚ) (callbacks : List Callback)
    (present : callbacks ≠ []) (beyond : lifetime ≤ clock + waiting callbacks - since) :
    ∃ reading ∈ (loop (observe (.finite lifetime)) ⟨⟨some held, since⟩, clock⟩ callbacks).2,
      reading.refreshed = true := by
  induction callbacks generalizing clock with
  | nil => exact absurd rfl present
  | cons callback callbacks ih =>
      have total : waiting (callback :: callbacks) = callback.pause + waiting callbacks :=
        List.sum_cons
      rw [total] at beyond
      by_cases fresh : clock + callback.pause - since < lifetime
      · have step := observe_fresh lifetime held since clock callback fresh
        have later : callbacks ≠ [] := by
          rintro rfl
          have none : waiting [] = 0 := rfl
          linarith only [fresh, beyond, none]
        obtain ⟨reading, member, refreshed⟩ :=
          ih (clock + callback.pause) later (by linarith only [beyond])
        refine ⟨reading, ?_, refreshed⟩
        simp only [loop, step]
        exact List.mem_cons_of_mem _ member
      · have step := observe_stale lifetime ⟨some held, since⟩ clock callback
          (.inr (not_lt.mp fresh))
        refine ⟨_, List.mem_cons_self, ?_⟩
        rw [step]

end Reads

section Runs

/-- The first callback of a cycle refreshes, and the others report the same snapshot. -/
structure OneRefresh (readings : List Reading) : Prop where
  first : readings.head?.map Reading.refreshed = some true
  once : readings.countP Reading.refreshed = 1
  shared : ∃ snapshot, ∀ reading ∈ readings, reading.snapshot = snapshot

/-- The time from the start of a cycle to its last callback, if only the first one refreshes. -/
def Cycle.span (cycle : Cycle) : ℚ :=
  (cycle.refreshes .up).duration + waiting cycle.others

variable (lifetime interval start : ℚ) (cycle : Cycle)

/-- A cycle that finds a stale source begins with a refresh. -/
theorem exportCycle_stale (source : GaugeSource) (stale : source.Stale lifetime start) :
    exportCycle (.finite lifetime) interval (source, start) cycle =
      (let answer := (cycle.refreshes .up).snapshot
       let later := loop (observe (.finite lifetime))
         ⟨⟨some answer, start⟩, start + (cycle.refreshes .up).duration⟩ cycle.others
       ((later.1.source, start + interval), ⟨.up, answer, true⟩ :: later.2)) := by
  have first := observe_stale lifetime source start ⟨.up, 0, le_rfl, cycle.refreshes .up⟩
    (by rw [add_zero]; exact stale)
  dsimp only at first
  rw [add_zero] at first
  unfold exportCycle Cycle.callbacks
  simp only [loop, first]

/-- Such a cycle refreshes once exactly if its last callback runs within the lifetime. -/
theorem exportCycle_within (source : GaugeSource) (stale : source.Stale lifetime start)
    (within : cycle.span < lifetime) :
    OneRefresh (exportCycle (.finite lifetime) interval (source, start) cycle).2 ∧
      (exportCycle (.finite lifetime) interval (source, start) cycle).1 =
        (⟨some (cycle.refreshes .up).snapshot, start⟩, start + interval) := by
  obtain ⟨kept, shared⟩ := observe_within lifetime (cycle.refreshes .up).snapshot start
    (start + (cycle.refreshes .up).duration) cycle.others (by
      unfold Cycle.span at within
      linarith only [within])
  rw [exportCycle_stale lifetime interval start cycle source stale]
  dsimp only
  refine ⟨⟨rfl, ?_, (cycle.refreshes .up).snapshot, ?_⟩, by rw [kept]⟩
  · rw [List.countP_cons_of_pos rfl, List.countP_eq_zero.mpr]
    intro reading member
    rw [(shared reading member).2]
    exact Bool.false_ne_true
  · intro reading member
    rcases List.mem_cons.mp member with rfl | later
    · rfl
    · exact (shared reading later).1

theorem exportCycle_beyond (source : GaugeSource) (stale : source.Stale lifetime start)
    (beyond : lifetime ≤ cycle.span) :
    ¬OneRefresh (exportCycle (.finite lifetime) interval (source, start) cycle).2 := by
  obtain ⟨reading, member, again⟩ := observe_beyond lifetime (cycle.refreshes .up).snapshot start
    (start + (cycle.refreshes .up).duration) cycle.others (List.cons_ne_nil _ _) (by
      unfold Cycle.span at beyond
      linarith only [beyond])
  rw [exportCycle_stale lifetime interval start cycle source stale]
  intro single
  have once := single.once
  rw [List.countP_cons_of_pos rfl, Nat.add_eq_right, List.countP_eq_zero] at once
  exact once reading member again

/-- A cycle that finds a fresh snapshot does not begin with a refresh. -/
theorem exportCycle_fresh (held : Neo4jSnapshot) (since : ℚ) (fresh : start - since < lifetime) :
    ¬OneRefresh (exportCycle (.finite lifetime) interval (⟨some held, since⟩, start) cycle).2 := by
  have first := observe_fresh lifetime held since start ⟨.up, 0, le_rfl, cycle.refreshes .up⟩
    (by rw [add_zero]; exact fresh)
  intro single
  have refreshed := single.first
  unfold exportCycle Cycle.callbacks at refreshed
  simp only [loop, first, List.head?_cons, Option.map_some, Option.some.injEq] at refreshed
  exact Bool.false_ne_true refreshed

/-- A run from a stale source goes on from the refresh of its first cycle. -/
theorem exportCycles_cons (source : GaugeSource) (stale : source.Stale lifetime start)
    (cycles : List Cycle) :
    (∀ readings ∈ (loop (exportCycle (.finite lifetime) interval) (source, start)
        (cycle :: cycles)).2, OneRefresh readings) ↔
      cycle.span < lifetime ∧ ∀ readings ∈ (loop (exportCycle (.finite lifetime) interval)
        (⟨some (cycle.refreshes .up).snapshot, start⟩, start + interval) cycles).2,
        OneRefresh readings := by
  simp only [loop]
  rw [List.forall_mem_cons]
  by_cases within : cycle.span < lifetime
  · obtain ⟨single, next⟩ :=
      exportCycle_within lifetime interval start cycle source stale within
    rw [next]
    exact and_congr_left fun _ => iff_of_true single within
  · have several := exportCycle_beyond lifetime interval start cycle source stale (not_lt.mp within)
    exact iff_of_false (fun both => several both.1) fun both => within both.1

/-- A cycle starts one interval after the latest refresh, if the earlier cycles did well. -/
theorem exportCycles_iff (cycles : List Cycle) (held : Neo4jSnapshot) (since : ℚ) :
    (∀ readings ∈ (loop (exportCycle (.finite lifetime) interval)
        (⟨some held, since⟩, since + interval) cycles).2, OneRefresh readings) ↔
      (∀ cycle ∈ cycles, cycle.span < lifetime) ∧ (cycles ≠ [] → lifetime ≤ interval) := by
  induction cycles generalizing held since with
  | nil => simp [loop]
  | cons cycle cycles ih =>
      by_cases long : lifetime ≤ interval
      · have stale : GaugeSource.Stale lifetime (since + interval) ⟨some held, since⟩ :=
          .inr (by linarith only [long])
        rw [exportCycles_cons lifetime interval (since + interval) cycle _ stale, ih,
          List.forall_mem_cons]
        simp only [long, implies_true, and_true]
      · have fresh : since + interval - since < lifetime := by linarith only [not_le.mp long]
        have reused := exportCycle_fresh lifetime interval (since + interval) cycle held since fresh
        refine iff_of_false (fun each => reused ?_) fun both =>
          long (both.2 (List.cons_ne_nil cycle cycles))
        exact each _ List.mem_cons_self

end Runs

/-- Every cycle of a run refreshes the snapshot once, and its callbacks report that snapshot,
exactly if each cycle ends within the lifetime and the next one starts after it. -/
theorem exportRun_oneRefresh_iff (float : String → Option Double) (setting : Option String)
    (interval start : ℚ) (set : exportIntervalS float setting = .finite interval)
    (cycles : List Cycle) :
    (∀ readings ∈ exportRun (refreshTtlS float setting) interval start cycles,
        OneRefresh readings) ↔
      (∀ cycle ∈ cycles, cycle.span < max 1 (interval / 2)) ∧
        (2 ≤ cycles.length → 1 ≤ interval) := by
  have positive := exportIntervalS_pos float setting interval set
  have second : max 1 (interval / 2) ≤ interval ↔ 1 ≤ interval := by
    rw [max_le_iff, and_iff_left (by linarith only [positive])]
  rw [refreshTtlS_eq float setting interval set]
  unfold exportRun
  cases cycles with
  | nil => simp [loop]
  | cons cycle cycles =>
      rw [exportCycles_cons _ interval start cycle _ (.inl rfl), exportCycles_iff,
        List.forall_mem_cons, second, and_assoc]
      cases cycles with
      | nil => simp
      | cons next cycles => simp

/-- The callbacks of this cycle run back to back, and every refresh in it would be the same. -/
def Cycle.backToBack (refresh : Refresh) : Cycle := ⟨fun _ => refresh, fun _ => 0, fun _ => le_rfl⟩

/-- This refresh answers after seven seconds. -/
def slowRefresh : Refresh where
  outcome := .answered { up := true }
  duration := 7
  nonnegative := by norm_num
  budgeted := by norm_num [refreshBudgetS]

/-- The default interval leaves room for such a refresh. -/
theorem exportRun_oneRefresh_minute :
    (∀ readings ∈ exportRun (refreshTtlS (fun _ => none) none) 60 0
        [.backToBack slowRefresh, .backToBack slowRefresh], OneRefresh readings) ↔
      (∀ cycle ∈ [Cycle.backToBack slowRefresh, .backToBack slowRefresh],
        cycle.span < max 1 (60 / 2)) ∧ (2 ≤ 2 → 1 ≤ (60 : ℚ)) :=
  exportRun_oneRefresh_iff (fun _ => none) none 60 0 (by decide +kernel)
    [.backToBack slowRefresh, .backToBack slowRefresh]

/-- An interval of ten seconds refreshes again in the second callback of the cycle. -/
theorem exportRun_refreshes_again :
    exportIntervalS (fun _ => some (.finite 10000)) (some "10000") = .finite 10 ∧
      ¬∀ readings ∈ exportRun (refreshTtlS (fun _ => some (.finite 10000)) (some "10000")) 10 0
        [.backToBack slowRefresh], OneRefresh readings := by
  refine ⟨by decide +kernel, ?_⟩
  intro each
  have once := (each _ List.mem_cons_self).once
  exact absurd once (by decide +kernel)

section Outage

/-- A refresh of an outage has no answer. -/
def Refresh.Out (refresh : Refresh) : Prop := ∀ snapshot, refresh.outcome ≠ .answered snapshot

theorem Refresh.snapshot_out {refresh : Refresh} (out : refresh.Out) : refresh.snapshot = neo4jDown := by
  unfold Refresh.snapshot
  cases known : refresh.outcome with
  | answered snapshot => exact absurd known (out snapshot)
  | refused => rfl
  | failed => rfl
  | timedOut => rfl

/-- A source holds nothing, or the snapshot of an outage. -/
def GaugeSource.Down (source : GaugeSource) : Prop :=
  ∀ held, source.snapshot = some held → held = neo4jDown

theorem observe_down (ttl : Double) (collecting : Collecting) (callback : Callback)
    (down : collecting.source.Down) (out : callback.refresh.Out) :
    (observe ttl collecting callback).1.source.Down ∧
      (observe ttl collecting callback).2.snapshot = neo4jDown := by
  have renewed (now : ℚ) : (GaugeSource.renew now callback.refresh).1.Down ∧
      (GaugeSource.renew now callback.refresh).2.1 = neo4jDown := by
    unfold GaugeSource.renew
    rw [Refresh.snapshot_out out]
    exact ⟨fun held same => (Option.some.inj same).symm, rfl⟩
  unfold observe GaugeSource.read
  dsimp only
  cases held : collecting.source.snapshot with
  | none => exact renewed _
  | some snapshot =>
      dsimp only
      split
      · exact ⟨down, down snapshot held⟩
      · exact renewed _

/-- A cycle in an outage reads its snapshot only. -/
theorem exportCycle_down (ttl : Double) (interval : ℚ) (state : GaugeSource × ℚ) (cycle : Cycle)
    (down : state.1.Down) (out : ∀ gauge, (cycle.refreshes gauge).Out) :
    (exportCycle ttl interval state cycle).1.1.Down ∧
      ∀ reading ∈ (exportCycle ttl interval state cycle).2, reading.snapshot = neo4jDown := by
  have each : ∀ callback ∈ cycle.callbacks, callback.refresh.Out := by
    intro callback member
    unfold Cycle.callbacks Cycle.others at member
    rw [List.mem_cons, List.mem_map] at member
    rcases member with first | ⟨gauge, _, same⟩
    · rw [first]
      exact out .up
    · rw [← same]
      exact out gauge
  have kept := loop_invariant (observe ttl) (fun collecting => collecting.source.Down) cycle.callbacks
    ⟨state.1, state.2⟩ down fun collecting callback member held =>
      (observe_down ttl collecting callback held (each callback member)).1
  refine ⟨kept.1, ?_⟩
  intro reading member
  change reading ∈ (loop (observe ttl) ⟨state.1, state.2⟩ cycle.callbacks).2 at member
  obtain ⟨visit, reached, same⟩ := (mem_loop_results _ _ _ _).mp member
  rw [← same]
  exact (observe_down ttl visit.1 visit.2 (kept.2 visit reached)
    (each visit.2 (mem_visits_item _ _ _ _ reached))).2

theorem observations_down (reading : Reading) (down : reading.snapshot = neo4jDown) :
    reading.observations = if reading.gauge = .up then [⟨0, none⟩] else [] := by
  unfold Reading.observations
  rw [down]
  cases reading.gauge <;> rfl

/-- In an outage the store is exported as down, and no other gauge exports anything. -/
theorem exportRun_outage (ttl : Double) (interval start : ℚ) (cycles : List Cycle)
    (out : ∀ cycle ∈ cycles, ∀ gauge, (cycle.refreshes gauge).Out) :
    ∀ readings ∈ exportRun ttl interval start cycles, ∀ reading ∈ readings,
      reading.observations = if reading.gauge = .up then [⟨0, none⟩] else [] := by
  have fresh : GaugeSource.new.Down := by
    intro held same
    cases same
  have kept := loop_invariant (exportCycle ttl interval) (fun state => state.1.Down) cycles
    (GaugeSource.new, start) fresh fun state cycle member down =>
      (exportCycle_down ttl interval state cycle down (out cycle member)).1
  intro readings member reading inside
  unfold exportRun at member
  obtain ⟨visit, reached, same⟩ := (mem_loop_results _ _ _ _).mp member
  apply observations_down
  rw [← same] at inside
  exact (exportCycle_down ttl interval visit.1 visit.2 (kept.2 visit reached)
    (out visit.2 (mem_visits_item _ _ _ _ reached))).2 reading inside

end Outage

end OperationsConsole.Telemetry
