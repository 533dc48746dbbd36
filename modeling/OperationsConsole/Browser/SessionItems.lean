/-
This file states when nothing of an ended browser session survives it, and decides it per answer.
Two readers do not compare their session, and the others compare only its value.
-/

import OperationsConsole.Browser.Dashboard
import OperationsConsole.Browser.QueueTrends

namespace OperationsConsole.Browser

open Library

/-- The items that a stop clears have their initial values. -/
structure Cleared (held : Held) : Prop where
  topology : held.topology = none
  pendingData : held.pendingData = none
  lastReading : held.lastReading = none
  history : held.history = Dict.empty
  runs : held.runs = Dict.empty
  runProgress : held.runProgress = Dict.empty
  alerts : held.alerts = none

/-- Every held item was requested in one session. -/
structure HeldFrom (period : Nat) (held : Held) : Prop where
  topology : ∀ item, held.topology = some item → item.period = period
  pendingData : ∀ item, held.pendingData = some item → item.period = period
  lastReading : ∀ item, held.lastReading = some item → item.period = period
  history : HistoryFrom period held.history
  runs : ∀ id run, held.runs.get? id = some run → run.period = period
  runProgress : ∀ id entry, held.runProgress.get? id = some entry → entry.period = period
  alerts : ∀ item, held.alerts = some item → item.period = period
  linkBases : ∀ item, held.linkBases = some item → item.period = period

/-- Nothing of an ended session survives when a stopped page is cleared and an active page holds
only items of its own session. -/
structure NothingSurvives (page : Dashboard) : Prop where
  cleared : page.active = false → Cleared page.toHeld
  current : page.active = true → HeldFrom page.period page.toHeld

/-- A guarded reader that goes on was asked in the current session. -/
def GuardHolds (page : Dashboard) (request : GuardedRequest) : Prop :=
  page.owns request.session = true → request.period = page.period

/-- A step keeps the sessions apart when it stores no answer of an earlier session: an unguarded
answer arrives in its own session, a guarded one does not meet its session value again, and a new
session finds nothing that an earlier one left. -/
def KeepsSession (page : Dashboard) : DashboardInput → Prop
  | .start session => session = none ∨ (page.active = true ∧ page.session = session) ∨
      (Cleared page.toHeld ∧ page.linkBases = none)
  | .topologyAnswer (.ok _) => ∀ period, page.topologyRequest = some period →
      page.active = true ∧ period = page.period
  | .metricsAnswer index (.ok _) => ∀ period, page.metricsRequests[index]? = some period →
      page.active = true ∧ period = page.period
  | .alertsAnswer index (.failed _) => ∀ request, page.alertRequests[index]? = some request →
      GuardHolds page request
  | .alertsAnswer index (.ok alerts) => alerts.configured = true →
      ∀ request, page.alertRequests[index]? = some request → GuardHolds page request
  | .linksAnswer index (.ok bases) => bases ≠ {} →
      ∀ request, page.linkRequests[index]? = some request → GuardHolds page request
  | .extractionsAnswer index (.ok extractions) => latestRuns extractions ≠ Dict.empty →
      ∀ request, page.extractionRequests[index]? = some request → GuardHolds page request
  | .progressAnswer index (.failed _) => ∀ progress, page.progressRequests[index]? = some progress →
      GuardHolds page progress.request
  | .progressAnswer index (.ok _) => ∀ progress, page.progressRequests[index]? = some progress →
      GuardHolds page progress.request
  | .frame _ => ∀ period, page.ws = some period → period = page.period
  | _ => True

/-- A quiet step keeps the items and the session. It opens a socket only for an active page, and it
asks for the bases of the deep links in the current session. -/
structure QuietStep (page later : Dashboard) : Prop where
  held : later.toHeld = page.toHeld
  active : later.active = page.active
  period : later.period = page.period
  ws : ∀ opened, later.ws = some opened → page.ws = some opened ∨ page.active = true
  linkRequests : ∀ request ∈ later.linkRequests,
    request ∈ page.linkRequests ∨ request.period = page.period

section Quiet

variable (page : Dashboard)

/-- A step that touches none of these fields is quiet. -/
theorem QuietStep.frame (later : Dashboard) (held : later.toHeld = page.toHeld)
    (active : later.active = page.active) (period : later.period = page.period)
    (ws : later.ws = page.ws) (linkRequests : later.linkRequests = page.linkRequests) :
    QuietStep page later := by
  refine ⟨held, active, period, ?_, ?_⟩
  · intro opened some
    exact .inl (ws ▸ some)
  · intro request member
    exact .inl (linkRequests ▸ member)

/-- Two quiet steps are one quiet step. -/
theorem QuietStep.trans {page middle later : Dashboard} (first : QuietStep page middle)
    (second : QuietStep middle later) : QuietStep page later where
  held := second.held.trans first.held
  active := second.active.trans first.active
  period := second.period.trans first.period
  ws opened some := by
    rcases second.ws opened some with before | active
    · exact first.ws opened before
    · exact .inr (first.active ▸ active)
  linkRequests request member := by
    rcases second.linkRequests request member with before | current
    · exact first.linkRequests request before
    · exact .inr (current.trans first.period)

/-- A request for the topology stores nothing. -/
theorem ensureTopology_quiet (waiter : Waiter) : QuietStep page (page.ensureTopology waiter) := by
  unfold Dashboard.ensureTopology
  split <;> exact QuietStep.frame _ _ rfl rfl rfl rfl rfl

/-- A request for the alerts stores nothing. -/
theorem fetchAlerts_quiet : QuietStep page page.fetchAlerts := by
  unfold Dashboard.fetchAlerts
  split <;> exact QuietStep.frame _ _ rfl rfl rfl rfl rfl

/-- A request for the progress stores nothing. -/
theorem fetchRunProgress_quiet : QuietStep page page.fetchRunProgress := by
  unfold Dashboard.fetchRunProgress
  split <;> exact QuietStep.frame _ _ rfl rfl rfl rfl rfl

/-- A request for a ticket stores nothing. -/
theorem initializeWebSocket_quiet : QuietStep page page.initializeWebSocket := by
  unfold Dashboard.initializeWebSocket
  split <;> exact QuietStep.frame _ _ rfl rfl rfl rfl rfl

/-- A reconnection stores nothing. -/
theorem reconnect_quiet : QuietStep page page.reconnect := by
  unfold Dashboard.reconnect
  split <;> exact QuietStep.frame _ _ rfl rfl rfl rfl rfl

/-- A request for the link bases stores nothing. -/
theorem fetchLinkBases_quiet : QuietStep page page.fetchLinkBases := by
  unfold Dashboard.fetchLinkBases
  split
  · refine ⟨rfl, rfl, rfl, fun opened some => .inl some, ?_⟩
    intro request member
    rw [List.mem_append, List.mem_singleton] at member
    exact member.imp_right fun new => by rw [new]; rfl
  · exact QuietStep.frame _ _ rfl rfl rfl rfl rfl

/-- The answer with a ticket stores nothing. -/
theorem ticketAnswer_quiet (answer : Answer String) : QuietStep page (page.ticketAnswer answer) := by
  have answered : QuietStep page { page with connecting := false } :=
    QuietStep.frame _ _ rfl rfl rfl rfl rfl
  unfold Dashboard.ticketAnswer
  split
  · split
    · rename_i active
      cases answer with
      | refused => exact answered
      | failed error => exact answered.trans (reconnect_quiet _)
      | ok ticket => exact ⟨rfl, rfl, rfl, fun _ _ => .inr active, fun _ member => .inl member⟩
    · exact answered
  · exact QuietStep.frame _ _ rfl rfl rfl rfl rfl

theorem reconnectTick_quiet : QuietStep page page.reconnectTick := by
  have fired : QuietStep page { page with reconnectTimer := false } :=
    QuietStep.frame _ _ rfl rfl rfl rfl rfl
  unfold Dashboard.reconnectTick
  split
  · exact fired.trans (initializeWebSocket_quiet _)
  · exact QuietStep.frame _ _ rfl rfl rfl rfl rfl

/-- A step that touches neither the items nor the session keeps the sessions apart. -/
theorem survives_of_frame (later : Dashboard) (held : later.toHeld = page.toHeld)
    (active : later.active = page.active) (period : later.period = page.period)
    (holds : NothingSurvives page) : NothingSurvives later := by
  constructor
  · rw [held, active]
    exact holds.cleared
  · rw [held, active, period]
    exact holds.current

/-- A quiet step keeps the sessions as far apart as they were. -/
theorem QuietStep.survives_iff {page later : Dashboard} (quiet : QuietStep page later) :
    NothingSurvives later ↔ NothingSurvives page := by
  constructor
  · intro holds
    exact survives_of_frame later page quiet.held.symm quiet.active.symm quiet.period.symm holds
  · intro holds
    exact survives_of_frame page later quiet.held quiet.active quiet.period holds

end Quiet

section Survival

variable (page : Dashboard)

/-- An active page keeps the sessions apart when it holds items of its own session. -/
theorem survives_of_active (active : page.active = true)
    (held : HeldFrom page.period page.toHeld) : NothingSurvives page := by
  constructor
  · intro stopped
    rw [active] at stopped
    simp at stopped
  · intro _
    exact held

theorem stored_period {α : Type} (kept item : Sent α) (period : Nat) (same : kept.period = period)
    (stored : some kept = some item) : item.period = period := by
  rw [← Option.some.inj stored]
  exact same

/-- Only an active page owns a session. -/
theorem owns_active (session : Option Nat) (owned : page.owns session = true) :
    page.active = true := by
  unfold Dashboard.owns at owned
  rw [Bool.and_eq_true] at owned
  exact owned.1

/-- A reading keeps the sessions apart exactly when an active page requested it in its own
session. -/
theorem updateDashboard_survives_iff (reading : Sent SystemMetrics)
    (holds : NothingSurvives page) :
    NothingSurvives (page.updateDashboard reading) ↔
      page.active = true ∧ reading.period = page.period := by
  unfold Dashboard.updateDashboard
  cases drawn : page.topology with
  | none =>
      dsimp only
      rw [(ensureTopology_quiet _ _).survives_iff]
      constructor
      · intro later
        cases active : page.active with
        | false =>
            have kept := (later.cleared active).pendingData
            simp at kept
        | true => exact ⟨rfl, (later.current active).pendingData reading rfl⟩
      · intro ⟨active, same⟩
        have before := holds.current active
        apply survives_of_active
        · exact active
        · exact { before with
            topology := fun item stored => before.topology item (drawn.trans stored)
            pendingData := fun item => stored_period reading item _ same }
  | some topology =>
      dsimp only
      constructor
      · intro later
        cases active : page.active with
        | false =>
            have kept := (later.cleared active).lastReading
            simp at kept
        | true => exact ⟨rfl, (later.current active).lastReading reading rfl⟩
      · intro ⟨active, same⟩
        have before := holds.current active
        apply survives_of_active
        · exact active
        · exact { before with
            topology := fun item stored => before.topology item (drawn.trans stored)
            history := updatePipelines_period _ _ _ _ before.history same
            lastReading := fun item => stored_period reading item _ same }

/-- Nothing survives an answer with the topology exactly if it arrives in its own session. -/
theorem topologyAnswer_survives_iff (answer : Answer Topology) (holds : NothingSurvives page) :
    NothingSurvives (page.topologyAnswer answer) ↔ KeepsSession page (.topologyAnswer answer) := by
  unfold Dashboard.topologyAnswer
  cases asked : page.topologyRequest with
  | none => cases answer <;> simp [KeepsSession, asked, holds]
  | some period =>
      dsimp only
      cases answer with
      | refused => exact iff_of_true (survives_of_frame page _ rfl rfl rfl holds) trivial
      | failed error => exact iff_of_true (survives_of_frame page _ rfl rfl rfl holds) trivial
      | ok topology =>
          constructor
          · intro later other found
            rw [asked, Option.some.injEq] at found
            rw [← found]
            cases active : page.active with
            | false =>
                have kept := (later.cleared active).topology
                simp [Dashboard.renderTopology] at kept
            | true => exact ⟨rfl, (later.current active).topology ⟨period, topology⟩ rfl⟩
          · intro keeps
            obtain ⟨active, same⟩ := keeps period asked
            apply survives_of_active
            · exact active
            · exact { holds.current active with
                topology := fun item => stored_period ⟨period, topology⟩ item _ same
                history := historyHas_empty _ }

/-- A guarded reader keeps the sessions apart exactly when its guard holds, if what it stores does
so exactly in the session of its request. -/
theorem guarded_survives_iff (request : GuardedRequest) (kept left : Dashboard)
    (stores : page.active = true → (NothingSurvives kept ↔ request.period = page.period))
    (leaves : NothingSurvives left) :
    NothingSurvives (if page.owns request.session then kept else left) ↔
      GuardHolds page request := by
  unfold GuardHolds
  cases owned : page.owns request.session with
  | false => simp [leaves]
  | true => simp [stores (owns_active page _ owned)]

/-- Nothing survives an answer with the alerts exactly if it keeps to its own session. -/
theorem alertsAnswer_survives_iff (index : Nat) (answer : Answer Alerts)
    (holds : NothingSurvives page) :
    NothingSurvives (page.alertsAnswer index answer) ↔
      KeepsSession page (.alertsAnswer index answer) := by
  unfold Dashboard.alertsAnswer
  cases asked : page.alertRequests[index]? with
  | none => cases answer <;> simp [KeepsSession, asked, holds]
  | some request =>
      have left : NothingSurvives
          { page with alertRequests := page.alertRequests.eraseIdx index } :=
        survives_of_frame page _ rfl rfl rfl holds
      have stores (alerts : Alerts) (active : page.active = true) : NothingSurvives { page with
          alertRequests := page.alertRequests.eraseIdx index
          alerts := some ⟨request.period, alerts⟩ } ↔ request.period = page.period := by
        constructor
        · intro later
          exact (later.current active).alerts ⟨request.period, alerts⟩ rfl
        · intro same
          apply survives_of_active
          · exact active
          · exact { holds.current active with
              alerts := fun item => stored_period ⟨request.period, alerts⟩ item _ same }
      cases answer with
      | refused => exact iff_of_true left trivial
      | failed error =>
          simp only [KeepsSession, asked, Option.some.injEq, forall_eq']
          exact guarded_survives_iff page request _ _ (stores _) left
      | ok alerts =>
          simp only [KeepsSession, asked, Option.some.injEq, forall_eq']
          cases configured : alerts.configured with
          | true =>
              simp only [forall_const, if_true]
              exact guarded_survives_iff page request _ _ (stores _) left
          | false =>
              simp only [Bool.false_eq_true, false_implies, if_false, iff_true]
              split
              · rename_i owned
                have active := owns_active page _ owned
                apply survives_of_active
                · exact active
                · exact { holds.current active with alerts := by simp }
              · exact left

/-- Nothing survives an answer with the link bases exactly if it keeps to its own session. -/
theorem linksAnswer_survives_iff (index : Nat) (answer : Answer LinkBases)
    (holds : NothingSurvives page) :
    NothingSurvives (page.linksAnswer index answer) ↔
      KeepsSession page (.linksAnswer index answer) := by
  unfold Dashboard.linksAnswer
  cases asked : page.linkRequests[index]? with
  | none => cases answer <;> simp [KeepsSession, asked, holds]
  | some request =>
      have left : NothingSurvives { page with linkRequests := page.linkRequests.eraseIdx index } :=
        survives_of_frame page _ rfl rfl rfl holds
      have clears (active : page.active = true) : NothingSurvives { page with
          linkRequests := page.linkRequests.eraseIdx index
          linkBases := none } := by
        apply survives_of_active
        · exact active
        · exact { holds.current active with linkBases := by simp }
      cases answer with
      | refused => exact iff_of_true left trivial
      | failed error =>
          refine iff_of_true ?_ trivial
          dsimp only
          split
          · exact clears (owns_active page _ ‹_›)
          · exact left
      | ok bases =>
          simp only [KeepsSession, asked, Option.some.injEq, forall_eq']
          by_cases absent : bases = {}
          · simp only [absent, ne_eq, not_true_eq_false, false_implies, if_true, iff_true]
            split
            · exact clears (owns_active page _ ‹_›)
            · exact left
          · simp only [absent, ne_eq, not_false_eq_true, forall_const, if_false]
            apply guarded_survives_iff page request _ _ _ left
            intro active
            constructor
            · intro later
              exact (later.current active).linkBases ⟨request.period, bases⟩ rfl
            · intro same
              apply survives_of_active
              · exact active
              · exact { holds.current active with
                  linkBases := fun item => stored_period ⟨request.period, bases⟩ item _ same }

/-- Nothing survives an answer with the runs exactly if it keeps to its own session. -/
theorem extractionsAnswer_survives_iff (index : Nat) (answer : Answer (List Run))
    (holds : NothingSurvives page) :
    NothingSurvives (page.extractionsAnswer index answer) ↔
      KeepsSession page (.extractionsAnswer index answer) := by
  unfold Dashboard.extractionsAnswer
  cases asked : page.extractionRequests[index]? with
  | none => cases answer <;> simp [KeepsSession, asked, holds]
  | some request =>
      have left : NothingSurvives
          { page with extractionRequests := page.extractionRequests.eraseIdx index } :=
        survives_of_frame page _ rfl rfl rfl holds
      cases answer with
      | refused => exact iff_of_true left trivial
      | failed error =>
          refine iff_of_true ?_ trivial
          dsimp only
          split
          · exact (ensureTopology_quiet _ _).survives_iff.mpr left
          · exact left
      | ok extractions =>
          simp only [KeepsSession, asked, Option.some.injEq, forall_eq']
          have stores (active : page.active = true) : NothingSurvives { page with
              extractionRequests := page.extractionRequests.eraseIdx index
              runs := (latestRuns extractions).mapValues fun _ run => ⟨request.period, run⟩ } ↔
                (latestRuns extractions ≠ Dict.empty → request.period = page.period) := by
            constructor
            · intro later some
              by_contra different
              apply some
              apply Dict.eq_empty_of_get?
              intro id
              cases found : (latestRuns extractions).get? id with
              | none => rfl
              | some run =>
                  exact absurd ((later.current active).runs id ⟨request.period, run⟩
                    (by simp [found])) different
            · intro same
              apply survives_of_active
              · exact active
              · exact { holds.current active with
                  runs := by
                    intro id item stored
                    rw [Dict.get?_mapValues, Option.map_eq_some_iff] at stored
                    obtain ⟨run, found, rfl⟩ := stored
                    apply same
                    intro empty
                    simp [empty] at found }
          cases owned : page.owns request.session with
          | false => simp [left, GuardHolds, owned]
          | true =>
              simp only [GuardHolds, owned, if_true, forall_const]
              rw [(ensureTopology_quiet _ _).survives_iff]
              exact stores (owns_active page _ owned)

/-- Nothing survives an answer with the progress exactly if it keeps to its own session. -/
theorem progressAnswer_survives_iff (index : Nat) (answer : Answer Session.Json)
    (holds : NothingSurvives page) :
    NothingSurvives (page.progressAnswer index answer) ↔
      KeepsSession page (.progressAnswer index answer) := by
  unfold Dashboard.progressAnswer
  cases asked : page.progressRequests[index]? with
  | none => cases answer <;> simp [KeepsSession, asked, holds]
  | some progress =>
      have left : NothingSurvives
          { page with progressRequests := page.progressRequests.eraseIdx index } :=
        survives_of_frame page _ rfl rfl rfl holds
      have stores (entry : ProgressEntry) (active : page.active = true) :
          NothingSurvives { page with
            progressRequests := page.progressRequests.eraseIdx index
            runProgress := page.runProgress.set progress.pipeline
              ⟨progress.request.period, entry⟩ } ↔
            progress.request.period = page.period := by
        constructor
        · intro later
          exact (later.current active).runProgress progress.pipeline
            ⟨progress.request.period, entry⟩ (by simp)
        · intro same
          apply survives_of_active
          · exact active
          · exact { holds.current active with
              runProgress := by
                intro id item stored
                rcases Dict.get?_of_set _ _ _ _ _ stored with ⟨_, new⟩ | ⟨_, old⟩
                · rw [new]
                  exact same
                · exact (holds.current active).runProgress id item old }
      cases answer with
      | refused => exact iff_of_true left trivial
      | failed error =>
          simp only [KeepsSession, asked, Option.some.injEq, forall_eq']
          exact guarded_survives_iff page progress.request _ _ (stores _) left
      | ok body =>
          simp only [KeepsSession, asked, Option.some.injEq, forall_eq']
          exact guarded_survives_iff page progress.request _ _ (stores _) left

end Survival

end OperationsConsole.Browser
