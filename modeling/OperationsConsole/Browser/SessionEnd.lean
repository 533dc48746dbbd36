/-
This file decides in which runs nothing of an ended browser session survives it.
A stop keeps the bases of the deep links, and an unguarded answer outlives the session.
-/

import OperationsConsole.Browser.SessionItems

namespace OperationsConsole.Browser

open Library

section Resume

variable (page : Dashboard)

/-- The progress of a pipeline is forgotten, kept, or asked for. -/
theorem fetchPipelineProgress_survives (session : Option Nat) (pipeline : TopologyPipeline)
    (holds : NothingSurvives page) :
    NothingSurvives (Dashboard.fetchPipelineProgress session page pipeline) := by
  unfold Dashboard.fetchPipelineProgress
  split
  · constructor
    · intro stopped
      exact { holds.cleared stopped with
        runProgress := by
          apply Dict.eq_empty_of_get?
          intro id
          simp [(holds.cleared stopped).runProgress] }
    · intro active
      exact { holds.current active with
        runProgress := by
          intro id item stored
          exact (holds.current active).runProgress id item (Dict.get?_of_erase _ _ _ _ stored).2 }
  · dsimp only
    split
    · exact holds
    · exact survives_of_frame page _ rfl rfl rfl holds

/-- A reader that waited for the topology stores nothing of an earlier session. -/
theorem resume_survives (index : Nat) (holds : NothingSurvives page) :
    NothingSurvives (page.resume index) := by
  unfold Dashboard.resume
  split
  · exact holds
  · rename_i waiter loaded found
    have resumed : NothingSurvives { page with ready := page.ready.eraseIdx index } :=
      survives_of_frame page _ rfl rfl rfl holds
    dsimp only
    cases waiter with
    | initial => exact survives_of_frame page _ rfl rfl rfl holds
    | pending =>
        dsimp only
        split
        · rename_i kept reading pending
          have taken : NothingSurvives
              { page with
                ready := page.ready.eraseIdx index
                pendingData := none } := by
            constructor
            · intro stopped
              exact { holds.cleared stopped with pendingData := rfl }
            · intro active
              exact { holds.current active with pendingData := by simp }
          rw [updateDashboard_survives_iff _ _ taken]
          cases active : page.active with
          | false =>
              have cleared := (holds.cleared active).pendingData
              rw [cleared] at pending
              simp at pending
          | true => exact ⟨rfl, (holds.current active).pendingData reading pending⟩
        · exact resumed
    | progress session =>
        dsimp only
        split
        · apply List.foldlRecOn
          · exact resumed
          · intro later kept pipeline _
            exact fetchPipelineProgress_survives later session pipeline kept
        · exact resumed

end Resume

/-- These facts hold in every run, whatever the answers: only an active page has a socket, a kept
history has a sample, and a link base was not requested in a later session. -/
structure Coherent (page : Dashboard) : Prop where
  ws : ∀ opened, page.ws = some opened → page.active = true
  history : HistoryHas (fun samples => samples ≠ []) page.history
  linkBases : ∀ item, page.linkBases = some item → item.period ≤ page.period
  linkRequests : ∀ request ∈ page.linkRequests, request.period ≤ page.period

section Invariant

variable (page : Dashboard)

/-- A quiet step keeps the page coherent. -/
theorem QuietStep.coherent {page later : Dashboard} (quiet : QuietStep page later)
    (before : Coherent page) : Coherent later where
  ws opened some := by
    rw [quiet.active]
    rcases quiet.ws opened some with old | active
    · exact before.ws opened old
    · exact active
  history := by
    rw [quiet.held]
    exact before.history
  linkBases := by
    rw [quiet.held, quiet.period]
    exact before.linkBases
  linkRequests request member := by
    rw [quiet.period]
    rcases quiet.linkRequests request member with old | current
    · exact before.linkRequests request old
    · exact current.le

/-- A reading that is drawn keeps the page coherent. -/
theorem updateDashboard_coherent (reading : Sent SystemMetrics) (before : Coherent page) :
    Coherent (page.updateDashboard reading) := by
  unfold Dashboard.updateDashboard
  split
  · apply (ensureTopology_quiet _ _).coherent
    exact { before with }
  · rename_i topology drawn
    exact { before with
      history := updatePipelines_has _ _ _ _ before.history
        fun samples time queue _ => recordSample_ne_nil samples _ }

/-- The answer with the link bases keeps the page coherent. -/
theorem linksAnswer_coherent (index : Nat) (answer : Answer LinkBases) (before : Coherent page) :
    Coherent (page.linksAnswer index answer) := by
  unfold Dashboard.linksAnswer
  cases asked : page.linkRequests[index]? with
  | none => exact before
  | some request =>
      have known := before.linkRequests request (List.mem_of_getElem? asked)
      have fewer : ∀ other ∈ page.linkRequests.eraseIdx index, other.period ≤ page.period :=
        fun other member => before.linkRequests other (List.mem_of_mem_eraseIdx member)
      have left : Coherent { page with linkRequests := page.linkRequests.eraseIdx index } :=
        { before with linkRequests := fewer }
      cases answer with
      | refused => exact left
      | failed error =>
          dsimp only
          split
          · exact { left with linkBases := by simp }
          · exact left
      | ok bases =>
          dsimp only
          split
          · refine { left with linkBases := ?_ }
            intro item stored
            split at stored
            · simp at stored
            · rw [← Option.some.inj stored]
              exact known
          · exact left

/-- A sign-in keeps the page coherent. -/
theorem start_coherent (session : Option Nat) (before : Coherent page) :
    Coherent (page.start session) := by
  unfold Dashboard.start
  split
  · exact before
  · split
    · exact (reconnect_quiet page).coherent before
    · dsimp only
      apply (fetchLinkBases_quiet _).coherent
      apply (fetchRunProgress_quiet _).coherent
      apply (fetchAlerts_quiet _).coherent
      apply (initializeWebSocket_quiet _).coherent
      apply (ensureTopology_quiet _ _).coherent
      exact { before with
        ws := fun _ _ => rfl
        linkBases := fun item stored => Nat.le_succ_of_le (before.linkBases item stored)
        linkRequests := fun request member =>
          Nat.le_succ_of_le (before.linkRequests request member) }

/-- The answer with the topology keeps the page coherent. -/
theorem topologyAnswer_coherent (answer : Answer Topology) (before : Coherent page) :
    Coherent (page.topologyAnswer answer) := by
  unfold Dashboard.topologyAnswer
  split
  · exact before
  · cases answer with
    | refused => exact { before with }
    | failed error => exact { before with }
    | ok topology => exact { before with history := historyHas_empty _ }

/-- The answer with the metrics keeps the page coherent. -/
theorem metricsAnswer_coherent (index : Nat) (answer : Answer SystemMetrics)
    (before : Coherent page) : Coherent (page.metricsAnswer index answer) := by
  unfold Dashboard.metricsAnswer
  split
  · exact before
  · cases answer with
    | refused => exact { before with }
    | failed error => exact { before with }
    | ok reading => exact updateDashboard_coherent _ _ { before with }

/-- The answer with the alerts keeps the page coherent. -/
theorem alertsAnswer_coherent (index : Nat) (answer : Answer Alerts) (before : Coherent page) :
    Coherent (page.alertsAnswer index answer) := by
  unfold Dashboard.alertsAnswer
  split
  · exact before
  · cases answer with
    | refused => exact { before with }
    | failed error => dsimp only; split <;> exact { before with }
    | ok alerts => dsimp only; split <;> exact { before with }

/-- The answer with the runs keeps the page coherent. -/
theorem extractionsAnswer_coherent (index : Nat) (answer : Answer (List Run))
    (before : Coherent page) : Coherent (page.extractionsAnswer index answer) := by
  unfold Dashboard.extractionsAnswer
  split
  · exact before
  · have left : Coherent
        { page with extractionRequests := page.extractionRequests.eraseIdx index } :=
      { before with }
    cases answer with
    | refused => exact left
    | failed error =>
        dsimp only
        split
        · exact (ensureTopology_quiet _ _).coherent left
        · exact left
    | ok extractions =>
        dsimp only
        split
        · exact (ensureTopology_quiet _ _).coherent { left with }
        · exact left

/-- The answer with the progress keeps the page coherent. -/
theorem progressAnswer_coherent (index : Nat) (answer : Answer Session.Json)
    (before : Coherent page) : Coherent (page.progressAnswer index answer) := by
  unfold Dashboard.progressAnswer
  split
  · exact before
  · cases answer with
    | refused => exact { before with }
    | failed error => dsimp only; split <;> exact { before with }
    | ok body => dsimp only; split <;> exact { before with }

theorem fetchPipelineProgress_coherent (session : Option Nat) (pipeline : TopologyPipeline)
    (before : Coherent page) :
    Coherent (Dashboard.fetchPipelineProgress session page pipeline) := by
  unfold Dashboard.fetchPipelineProgress
  split
  · exact { before with }
  · dsimp only
    split
    · exact before
    · exact { before with }

/-- A continuation that resumes keeps the page coherent. -/
theorem resume_coherent (index : Nat) (before : Coherent page) :
    Coherent (page.resume index) := by
  unfold Dashboard.resume
  split
  · exact before
  · rename_i waiter loaded found
    dsimp only
    cases waiter with
    | initial => exact { before with }
    | pending =>
        dsimp only
        split
        · exact updateDashboard_coherent _ _ { before with }
        · exact { before with }
    | progress session =>
        dsimp only
        split
        · apply List.foldlRecOn
          · exact { before with }
          · intro later kept pipeline _
            exact fetchPipelineProgress_coherent later session pipeline kept
        · exact { before with }

/-- A frame of the socket keeps the page coherent. -/
theorem frame_coherent (reading : SystemMetrics) (before : Coherent page) :
    Coherent (page.frame reading) := by
  unfold Dashboard.frame
  split
  · exact before
  · exact updateDashboard_coherent page _ before

/-- The end of a socket keeps the page coherent. -/
theorem socketClosed_coherent (code : Nat) (before : Coherent page) :
    Coherent (page.socketClosed code) := by
  have gone : Coherent { page with
      history := Dict.empty
      ws := none } := { before with
    ws := by simp
    history := historyHas_empty _ }
  unfold Dashboard.socketClosed
  split
  · exact before
  · dsimp only
    split
    · split
      · exact gone
      · exact (reconnect_quiet _).coherent gone
    · exact { before with history := historyHas_empty _ }

/-- Every step keeps the facts that hold in every run. -/
theorem step_coherent (input : DashboardInput) (before : Coherent page) :
    Coherent (page.step input) := by
  cases input with
  | start session => exact start_coherent page session before
  | stop =>
      exact { before with
        ws := by simp [Dashboard.step, Dashboard.stop]
        history := historyHas_empty _ }
  | topologyAnswer answer => exact topologyAnswer_coherent page answer before
  | metricsAnswer index answer => exact metricsAnswer_coherent page index answer before
  | alertsAnswer index answer => exact alertsAnswer_coherent page index answer before
  | linksAnswer index answer => exact linksAnswer_coherent page index answer before
  | extractionsAnswer index answer => exact extractionsAnswer_coherent page index answer before
  | progressAnswer index answer => exact progressAnswer_coherent page index answer before
  | resume index => exact resume_coherent page index before
  | ticketAnswer answer => exact (ticketAnswer_quiet page answer).coherent before
  | frame reading => exact frame_coherent page reading before
  | socketClosed code => exact socketClosed_coherent page code before
  | reconnectTick => exact (reconnectTick_quiet page).coherent before
  | alertsTick => exact (fetchAlerts_quiet page).coherent before
  | progressTick => exact (fetchRunProgress_quiet page).coherent before

end Invariant

/-- The page is coherent after every history. -/
theorem dashboardAfter_coherent (history : List DashboardInput) :
    Coherent (dashboardAfter history) := by
  induction history with
  | nil => exact ⟨by simp [dashboardAfter], historyHas_empty _, by simp [dashboardAfter],
      by simp [dashboardAfter]⟩
  | cons input earlier ih => exact step_coherent _ input ih

section TwoSessions

variable {α : Type} (first second : Nat)

/-- No item was requested in two sessions. -/
theorem item_eq_none (kept : Option (Sent α)) (different : first ≠ second)
    (before : ∀ item, kept = some item → item.period = first)
    (later : ∀ item, kept = some item → item.period = second) : kept = none := by
  cases kept with
  | none => rfl
  | some item => exact absurd ((before item rfl).symm.trans (later item rfl)) different

/-- Items that belong to two different sessions are no items. -/
theorem items_eq_empty (kept : Dict String (Sent α)) (different : first ≠ second)
    (before : ∀ key item, kept.get? key = some item → item.period = first)
    (later : ∀ key item, kept.get? key = some item → item.period = second) :
    kept = Dict.empty := by
  apply Dict.eq_empty_of_get?
  intro key
  exact item_eq_none first second _ different (before key) (later key)

/-- Items that were requested in two sessions are no items at all. -/
theorem cleared_of_two_sessions (held : Held) (different : first ≠ second)
    (recorded : HistoryHas (fun samples => samples ≠ []) held.history)
    (before : HeldFrom first held) (later : HeldFrom second held) :
    Cleared held ∧ held.linkBases = none where
  left := {
    topology := item_eq_none first second _ different before.topology later.topology
    pendingData := item_eq_none first second _ different before.pendingData later.pendingData
    lastReading := item_eq_none first second _ different before.lastReading later.lastReading
    history := history_eq_empty first second _ recorded before.history later.history different
    runs := items_eq_empty first second _ different before.runs later.runs
    runProgress := items_eq_empty first second _ different before.runProgress later.runProgress
    alerts := item_eq_none first second _ different before.alerts later.alerts }
  right := item_eq_none first second _ different before.linkBases later.linkBases

/-- A page that keeps nothing keeps nothing of another session. -/
theorem heldFrom_of_cleared (period : Nat) (held : Held) (cleared : Cleared held)
    (absent : held.linkBases = none) : HeldFrom period held where
  topology := by simp [cleared.topology]
  pendingData := by simp [cleared.pendingData]
  lastReading := by simp [cleared.lastReading]
  history := by
    rw [cleared.history]
    exact historyHas_empty _
  runs := by simp [cleared.runs]
  runProgress := by simp [cleared.runProgress]
  alerts := by simp [cleared.alerts]
  linkBases := by simp [absent]

end TwoSessions

section Step

variable (page : Dashboard)

/-- A new session finds nothing of an earlier one exactly when nothing is kept. -/
theorem start_survives_iff (session : Option Nat) (holds : NothingSurvives page)
    (before : Coherent page) :
    NothingSurvives (page.start session) ↔ KeepsSession page (.start session) := by
  unfold Dashboard.start KeepsSession
  split
  · rename_i absent
    exact iff_of_true holds (.inl absent)
  · rename_i given
    split
    · rename_i resumed
      rw [Bool.and_eq_true, decide_eq_true_iff] at resumed
      exact iff_of_true ((reconnect_quiet page).survives_iff.mpr holds) (.inr (.inl resumed))
    · rename_i other
      rw [Bool.and_eq_true, decide_eq_true_iff] at other
      simp only [given, other, false_or]
      rw [(fetchLinkBases_quiet _).survives_iff, (fetchRunProgress_quiet _).survives_iff,
        (fetchAlerts_quiet _).survives_iff, (initializeWebSocket_quiet _).survives_iff,
        (ensureTopology_quiet _ _).survives_iff]
      constructor
      · intro later
        have started : HeldFrom (page.period + 1) page.toHeld := later.current rfl
        cases active : page.active with
        | false =>
            refine ⟨holds.cleared active, ?_⟩
            cases kept : page.linkBases with
            | none => rfl
            | some item =>
                have newer := started.linkBases item kept
                have older := before.linkBases item kept
                omega
        | true =>
            exact cleared_of_two_sessions page.period (page.period + 1) page.toHeld (by omega)
              before.history (holds.current active) started
      · intro ⟨cleared, absent⟩
        apply survives_of_active
        · rfl
        · exact heldFrom_of_cleared (page.period + 1) page.toHeld cleared absent

/-- An answer with metrics leaves nothing of a former session exactly if its session lasts. -/
theorem metricsAnswer_survives_iff (index : Nat) (answer : Answer SystemMetrics)
    (holds : NothingSurvives page) :
    NothingSurvives (page.metricsAnswer index answer) ↔
      KeepsSession page (.metricsAnswer index answer) := by
  unfold Dashboard.metricsAnswer
  cases asked : page.metricsRequests[index]? with
  | none => cases answer <;> simp [KeepsSession, asked, holds]
  | some period =>
      have left : NothingSurvives
          { page with metricsRequests := page.metricsRequests.eraseIdx index } :=
        survives_of_frame page _ rfl rfl rfl holds
      cases answer with
      | refused => exact iff_of_true left trivial
      | failed error => exact iff_of_true left trivial
      | ok reading =>
          simp only [KeepsSession, asked, Option.some.injEq, forall_eq']
          exact updateDashboard_survives_iff _ _ left

/-- A frame keeps the sessions apart exactly when its socket belongs to the session. -/
theorem frame_survives_iff (reading : SystemMetrics) (holds : NothingSurvives page)
    (before : Coherent page) :
    NothingSurvives (page.frame reading) ↔ KeepsSession page (.frame reading) := by
  unfold Dashboard.frame
  cases opened : page.ws with
  | none => simp [KeepsSession, opened, holds]
  | some period =>
      simp only [KeepsSession, opened, Option.some.injEq, forall_eq']
      rw [updateDashboard_survives_iff _ _ holds]
      exact and_iff_right (before.ws period opened)

/-- The end of a socket leaves nothing of a former session. -/
theorem socketClosed_survives (code : Nat) (holds : NothingSurvives page) :
    NothingSurvives (page.socketClosed code) := by
  have closed (ws : Option Nat) : NothingSurvives { page with
      history := Dict.empty
      ws := ws } := by
    constructor
    · intro stopped
      exact { holds.cleared stopped with history := rfl }
    · intro active
      exact { holds.current active with history := historyHas_empty _ }
  unfold Dashboard.socketClosed
  split
  · exact holds
  · dsimp only
    split
    · split
      · exact closed none
      · exact (reconnect_quiet _).survives_iff.mpr (closed none)
    · exact closed _

/-- A stopped page is cleared. -/
theorem stop_survives : NothingSurvives page.stop := by
  constructor
  · intro _
    exact ⟨rfl, rfl, rfl, rfl, rfl, rfl, rfl⟩
  · intro active
    simp [Dashboard.stop] at active

/-- A step keeps the sessions apart exactly when it stores no answer of an earlier session. -/
theorem step_survives_iff (input : DashboardInput) (holds : NothingSurvives page)
    (before : Coherent page) :
    NothingSurvives (page.step input) ↔ KeepsSession page input := by
  cases input with
  | start session => exact start_survives_iff page session holds before
  | stop => exact iff_of_true (stop_survives page) trivial
  | topologyAnswer answer => exact topologyAnswer_survives_iff page answer holds
  | metricsAnswer index answer => exact metricsAnswer_survives_iff page index answer holds
  | alertsAnswer index answer => exact alertsAnswer_survives_iff page index answer holds
  | linksAnswer index answer => exact linksAnswer_survives_iff page index answer holds
  | extractionsAnswer index answer => exact extractionsAnswer_survives_iff page index answer holds
  | progressAnswer index answer => exact progressAnswer_survives_iff page index answer holds
  | resume index => exact iff_of_true (resume_survives page index holds) trivial
  | ticketAnswer answer =>
      exact iff_of_true ((ticketAnswer_quiet page answer).survives_iff.mpr holds) trivial
  | frame reading => exact frame_survives_iff page reading holds before
  | socketClosed code => exact iff_of_true (socketClosed_survives page code holds) trivial
  | reconnectTick =>
      exact iff_of_true ((reconnectTick_quiet page).survives_iff.mpr holds) trivial
  | alertsTick => exact iff_of_true ((fetchAlerts_quiet page).survives_iff.mpr holds) trivial
  | progressTick =>
      exact iff_of_true ((fetchRunProgress_quiet page).survives_iff.mpr holds) trivial

end Step

/-- Nothing of an ended session survives at any point of a run exactly when every step of the run
keeps the sessions apart. -/
theorem nothingSurvives_iff (history : List DashboardInput) :
    (∀ part, part <:+ history → NothingSurvives (dashboardAfter part)) ↔
      Guarded Dashboard.step {} KeepsSession history := by
  apply guarded_states_iff Dashboard.step {} KeepsSession NothingSurvives (stop_survives {})
  intro input earlier before
  exact step_survives_iff _ input before (dashboardAfter_coherent earlier)

/-- The session ends while its request for the topology is in flight. -/
def overtakenTopology : List DashboardInput :=
  [.topologyAnswer (.ok ⟨[]⟩), .stop, .start (some 1)]

/-- The signed-out page draws the topology of the session that ended. -/
theorem nothingSurvives_fails : ¬ NothingSurvives (dashboardAfter overtakenTopology) := by
  intro holds
  have cleared := (holds.cleared rfl).topology
  exact absurd cleared (by decide +kernel)

end OperationsConsole.Browser
