/-
This file states when the page describes a run by the run's own numbers.
The runs and their progress are two maps, and each answer replaces a part of one of them.
-/

import OperationsConsole.Browser.SessionItems

namespace OperationsConsole.Browser

open Library

/-- A run is older than another when it started earlier. The built-in `parse` reads its start. -/
def olderRun (parse : Option String → Seconds) (first second : ProgressKey) : Prop :=
  parse first.startedAt < parse second.startedAt

/-- Every drawn run that has progress has its own. -/
def Matched (draws : String → Bool) (runOf : String → Option Run)
    (entryOf : String → Option ProgressEntry) : Prop :=
  ∀ id run entry, draws id = true → runOf id = some run → entryOf id = some entry →
    entry.key = run.progressKey

/-- A page with fewer entries matches where it did. -/
theorem Matched.mono {draws : String → Bool} {runOf : String → Option Run}
    {entryOf fewer : String → Option ProgressEntry} (matched : Matched draws runOf entryOf)
    (kept : ∀ id entry, fewer id = some entry → entryOf id = some entry) :
    Matched draws runOf fewer :=
  fun id run entry drawn current stored => matched id run entry drawn current (kept id entry stored)

def Topology.draws (topology : Topology) (id : String) : Bool :=
  topology.pipelines.any fun pipeline => pipeline.id = id

section Page

variable (page : Dashboard)

/-- The page draws the pipelines of its topology. -/
def Dashboard.draws (id : String) : Bool :=
  page.topology.any fun topology => topology.value.draws id

/-- The headline and the Run progress view of a pipeline describe this run. -/
def Dashboard.runOf (id : String) : Option Run := (page.runs.get? id).map Sent.value

/-- They take the data and the error from this entry, which carries the key it was fetched for. -/
def Dashboard.entryOf (id : String) : Option ProgressEntry :=
  (page.runProgress.get? id).map Sent.value

/-- Every run that the page can draw is described by its own numbers. -/
def OwnNumbers : Prop := Matched page.draws page.runOf page.entryOf

/-- A progress answer is stored when its session is the current one. -/
def Dashboard.storedAnswer (index : Nat) (answer : Answer Session.Json) :
    Option (String × ProgressEntry) :=
  match page.progressRequests[index]? with
  | none => none
  | some progress =>
      if page.owns progress.request.session then
        match answer with
        | .refused => none
        | .failed error => some (progress.pipeline, ⟨progress.key, none, some error⟩)
        | .ok body => some (progress.pipeline, ⟨progress.key, some body, none⟩)
      else none

def Dashboard.stores : DashboardInput → Option (String × ProgressEntry)
  | .progressAnswer index answer => page.storedAnswer index answer
  | _ => none

variable (parse : Option String → Seconds)

/-- A step does not replace the entry of a newer run by one of an older run. -/
def KeepsNewer (input : DashboardInput) : Prop :=
  ∀ id entry, page.stores input = some (id, entry) → ∀ old, page.entryOf id = some old →
    ¬olderRun parse entry.key old.key

/-- An answer for a key is timely when the drawn run of the pipeline has that key. Without a drawn
run it is timely when no entry of a newer run is stored. -/
def Timely (id : String) (key : ProgressKey) : Prop :=
  match if page.draws id then page.runOf id else none with
  | some run => key = run.progressKey
  | none => ∀ old, page.entryOf id = some old → ¬olderRun parse key old.key

/-- A step is timely when a list of runs, or a topology, finds for every drawn pipeline the entry of
its run, and when a progress answer finds the run that it was requested for. -/
def TimelyStep : DashboardInput → Prop
  | .topologyAnswer (.ok topology) =>
      page.topologyRequest.isSome = true → Matched topology.draws page.runOf page.entryOf
  | .extractionsAnswer index (.ok extractions) =>
      ∀ request, page.extractionRequests[index]? = some request →
        page.owns request.session = true →
          Matched page.draws (latestRuns extractions).get? page.entryOf
  | .progressAnswer index answer =>
      ∀ id entry, page.storedAnswer index answer = some (id, entry) →
        Timely page parse id entry.key
  | _ => True

end Page

/-- In every state of a run of the page each drawn run is described by its own numbers, and no step
replaces the entry of a newer run by one of an older run. -/
def DescribesOwnRuns (parse : Option String → Seconds) (history : List DashboardInput) : Prop :=
  (∀ part, part <:+ history → OwnNumbers (dashboardAfter part)) ∧
    ∀ input part, input :: part <:+ history → KeepsNewer (dashboardAfter part) parse input

section Steps

variable (page : Dashboard)

/-- The numbers match as before when a step keeps the items. -/
theorem ownNumbers_of_held (later : Dashboard) (held : later.toHeld = page.toHeld) :
    OwnNumbers later ↔ OwnNumbers page := by
  unfold OwnNumbers Dashboard.draws Dashboard.runOf Dashboard.entryOf
  rw [held]

/-- A reading touches neither the runs nor their numbers. -/
theorem updateDashboard_ownNumbers (reading : Sent SystemMetrics) :
    OwnNumbers (page.updateDashboard reading) ↔ OwnNumbers page := by
  unfold Dashboard.updateDashboard
  split
  · apply Iff.trans (ownNumbers_of_held _ _ (ensureTopology_quiet _ _).held)
    rfl
  · rename_i topology laid
    unfold OwnNumbers Dashboard.draws
    rw [laid]
    rfl

/-- A request for the progress keeps the numbers of the own runs. -/
theorem fetchPipelineProgress_ownNumbers (session : Option Nat) (pipeline : TopologyPipeline)
    (before : OwnNumbers page) :
    OwnNumbers (Dashboard.fetchPipelineProgress session page pipeline) := by
  unfold Dashboard.fetchPipelineProgress
  split
  · apply before.mono
    intro id entry stored
    unfold Dashboard.entryOf at stored
    obtain ⟨item, found, rfl⟩ := Option.map_eq_some_iff.mp stored
    have kept := (Dict.get?_of_erase _ _ _ _ found).2
    rw [Dashboard.entryOf, kept, Option.map_some]
  · dsimp only
    split
    · exact before
    · exact before

/-- A continuation that resumes keeps the numbers of the own runs. -/
theorem resume_ownNumbers (index : Nat) (before : OwnNumbers page) :
    OwnNumbers (page.resume index) := by
  unfold Dashboard.resume
  split
  · exact before
  · rename_i waiter loaded found
    dsimp only
    cases waiter with
    | initial => exact before
    | pending =>
        dsimp only
        split
        · exact (updateDashboard_ownNumbers _ _).mpr before
        · exact before
    | progress session =>
        dsimp only
        split
        · apply List.foldlRecOn
          · exact before
          · intro later kept pipeline _
            exact fetchPipelineProgress_ownNumbers later session pipeline kept
        · exact before

theorem start_held (session : Option Nat) : (page.start session).toHeld = page.toHeld := by
  unfold Dashboard.start
  split
  · rfl
  · split
    · exact (reconnect_quiet page).held
    · dsimp only
      rw [(fetchLinkBases_quiet _).held, (fetchRunProgress_quiet _).held,
        (fetchAlerts_quiet _).held, (initializeWebSocket_quiet _).held,
        (ensureTopology_quiet _ _).held]

theorem socketClosed_ownNumbers (code : Nat) (before : OwnNumbers page) :
    OwnNumbers (page.socketClosed code) := by
  unfold Dashboard.socketClosed
  split
  · exact before
  · dsimp only
    split
    · split
      · exact before
      · exact (ownNumbers_of_held _ _ (reconnect_quiet _).held).mpr before
    · exact before

/-- An answer with metrics keeps the numbers of the own runs. -/
theorem metricsAnswer_ownNumbers (index : Nat) (answer : Answer SystemMetrics)
    (before : OwnNumbers page) : OwnNumbers (page.metricsAnswer index answer) := by
  unfold Dashboard.metricsAnswer
  split
  · exact before
  · cases answer with
    | ok reading => exact (updateDashboard_ownNumbers _ _).mpr before
    | _ => exact before

/-- A frame of the socket keeps the numbers of the own runs. -/
theorem frame_ownNumbers (reading : SystemMetrics) (before : OwnNumbers page) :
    OwnNumbers (page.frame reading) := by
  unfold Dashboard.frame
  split
  · exact before
  · exact (updateDashboard_ownNumbers page _).mpr before

theorem alertsAnswer_ownNumbers (index : Nat) (answer : Answer Alerts) (before : OwnNumbers page) :
    OwnNumbers (page.alertsAnswer index answer) := by
  unfold Dashboard.alertsAnswer
  split
  · exact before
  · cases answer with
    | refused => exact before
    | failed error => dsimp only; split <;> exact before
    | ok alerts => dsimp only; split <;> exact before

theorem linksAnswer_ownNumbers (index : Nat) (answer : Answer LinkBases)
    (before : OwnNumbers page) : OwnNumbers (page.linksAnswer index answer) := by
  unfold Dashboard.linksAnswer
  split
  · exact before
  · cases answer with
    | refused => exact before
    | failed error => dsimp only; split <;> exact before
    | ok bases => dsimp only; split <;> exact before

/-- A stopped page describes no run. -/
theorem stop_ownNumbers : OwnNumbers page.stop := by
  intro id run entry drawn
  simp [Dashboard.draws, Dashboard.stop] at drawn

variable (parse : Option String → Seconds)

/-- A topology draws the runs that the page holds beside the entries that it holds. -/
theorem topologyAnswer_ownNumbers_iff (answer : Answer Topology) (before : OwnNumbers page) :
    OwnNumbers (page.topologyAnswer answer) ↔ TimelyStep page parse (.topologyAnswer answer) := by
  unfold Dashboard.topologyAnswer
  cases requested : page.topologyRequest with
  | none =>
      dsimp only
      cases answer with
      | ok topology => simp [TimelyStep, requested, before]
      | _ => simp [TimelyStep, before]
  | some period =>
      dsimp only
      cases answer with
      | refused =>
          exact iff_of_true before trivial
      | failed error =>
          exact iff_of_true before trivial
      | ok topology =>
          constructor
          · intro own _
            exact own
          · intro timely
            exact timely (by rw [requested]; rfl)

/-- A page that replaces its runs draws the new ones beside the entries that it holds. -/
theorem ownNumbers_of_runs (runs : Dict String Run) (period : Nat) (later : Dashboard)
    (held : later.toHeld =
      { page.toHeld with runs := runs.mapValues fun _ run => ⟨period, run⟩ }) :
    OwnNumbers later ↔ Matched page.draws runs.get? page.entryOf := by
  have listed : later.runOf = runs.get? := by
    funext id
    unfold Dashboard.runOf
    rw [held]
    change Option.map _ ((runs.mapValues _).get? id) = _
    rw [Dict.get?_mapValues, Option.map_map]
    exact Option.map_id'
  have drawn : later.draws = page.draws := by
    unfold Dashboard.draws
    rw [held]
  have kept : later.entryOf = page.entryOf := by
    unfold Dashboard.entryOf
    rw [held]
  rw [OwnNumbers, listed, drawn, kept]

/-- A list of runs of the current session replaces the runs and keeps the entries. -/
theorem extractionsAnswer_ownNumbers_iff (index : Nat) (answer : Answer (List Run))
    (before : OwnNumbers page) :
    OwnNumbers (page.extractionsAnswer index answer) ↔
      TimelyStep page parse (.extractionsAnswer index answer) := by
  unfold Dashboard.extractionsAnswer
  cases requested : page.extractionRequests[index]? with
  | none =>
      dsimp only
      cases answer with
      | ok extractions => simp [TimelyStep, requested, before]
      | _ => simp [TimelyStep, before]
  | some request =>
      cases answer with
      | refused =>
          exact iff_of_true before trivial
      | failed error =>
          apply iff_of_true _ trivial
          dsimp only
          split
          · exact (ownNumbers_of_held _ _ (ensureTopology_quiet _ _).held).mpr before
          · exact before
      | ok extractions =>
          dsimp only
          cases owned : page.owns request.session with
          | false =>
              constructor
              · intro _ other same owns
                rw [requested, Option.some.injEq] at same
                rw [← same, owned] at owns
                simp at owns
              · intro _
                exact before
          | true =>
              rw [if_pos rfl, ownNumbers_of_runs page (latestRuns extractions) request.period _
                (ensureTopology_quiet _ _).held]
              constructor
              · intro matched _ _ _
                exact matched
              · intro timely
                exact timely request requested owned

/-- A stored answer puts one entry beside the drawn runs. -/
theorem stored_ownNumbers_iff (id : String) (entry : Sent ProgressEntry) (later : Dashboard)
    (held : later.toHeld =
      { page.toHeld with runProgress := page.runProgress.set id entry })
    (before : OwnNumbers page) :
    (OwnNumbers later ∧ ∀ old, page.entryOf id = some old → ¬olderRun parse entry.value.key old.key) ↔
      Timely page parse id entry.value.key := by
  have drawn : later.draws = page.draws := by
    unfold Dashboard.draws
    rw [held]
  have listed : later.runOf = page.runOf := by
    unfold Dashboard.runOf
    rw [held]
  have stored (other : String) :
      later.entryOf other = if other = id then some entry.value else page.entryOf other := by
    unfold Dashboard.entryOf
    rw [held]
    change Option.map _ ((page.runProgress.set id entry).get? other) = _
    rw [Dict.get?_set]
    split <;> rfl
  unfold Timely
  cases current : if page.draws id then page.runOf id else none with
  | none =>
      constructor
      · intro both
        exact both.2
      · intro newer
        refine ⟨?_, newer⟩
        intro other run known draws found kept
        rw [drawn] at draws
        rw [listed] at found
        rw [stored] at kept
        split at kept
        · rename_i same
          rw [same] at draws found
          rw [if_pos draws, found] at current
          simp at current
        · exact before other run known draws found kept
  | some run =>
      have found : page.draws id = true ∧ page.runOf id = some run := by
        split at current
        · rename_i draws
          exact ⟨draws, current⟩
        · simp at current
      constructor
      · intro both
        apply both.1 id run entry.value
        · rw [drawn]
          exact found.1
        · rw [listed]
          exact found.2
        · rw [stored, if_pos rfl]
      · intro same
        constructor
        · intro other known late draws listedRun kept
          rw [drawn] at draws
          rw [listed] at listedRun
          rw [stored] at kept
          split at kept
          · rename_i equal
            rw [equal, found.2, Option.some.injEq] at listedRun
            rw [← Option.some.inj kept, same, listedRun]
          · exact before other known late draws listedRun kept
        · intro old kept older
          have matched := before id run old found.1 found.2 kept
          dsimp only at same
          rw [same, matched] at older
          exact lt_irrefl _ older

/-- A progress answer stores its entry, or it keeps the items. -/
theorem progressAnswer_cases (index : Nat) (answer : Answer Session.Json) :
    (page.storedAnswer index answer = none ∧
      (page.progressAnswer index answer).toHeld = page.toHeld) ∨
    ∃ id entry, page.storedAnswer index answer = some (id, entry.value) ∧
      (page.progressAnswer index answer).toHeld =
        { page.toHeld with runProgress := page.runProgress.set id entry } := by
  unfold Dashboard.progressAnswer Dashboard.storedAnswer
  cases page.progressRequests[index]? with
  | none => exact .inl ⟨rfl, rfl⟩
  | some progress =>
      dsimp only
      cases page.owns progress.request.session with
      | false => cases answer <;> exact .inl ⟨rfl, rfl⟩
      | true =>
          cases answer with
          | refused => exact .inl ⟨rfl, rfl⟩
          | failed error => exact .inr ⟨_, _, rfl, rfl⟩
          | ok body => exact .inr ⟨_, _, rfl, rfl⟩

/-- A progress answer is timely exactly if it keeps the runs described by their own numbers and
replaces no newer entry. -/
theorem progressAnswer_ownNumbers_iff (index : Nat) (answer : Answer Session.Json)
    (before : OwnNumbers page) :
    OwnNumbers (page.progressAnswer index answer) ∧
        KeepsNewer page parse (.progressAnswer index answer) ↔
      TimelyStep page parse (.progressAnswer index answer) := by
  change _ ∧ (∀ id entry, page.storedAnswer index answer = some (id, entry) → _) ↔
    ∀ id entry, page.storedAnswer index answer = some (id, entry) → _
  rcases progressAnswer_cases page index answer with ⟨nothing, held⟩ | ⟨id, entry, stored, held⟩
  · rw [ownNumbers_of_held _ _ held, nothing]
    simp [before]
  · have exactly := stored_ownNumbers_iff page parse id entry _ held before
    rw [stored]
    constructor
    · rintro ⟨own, newer⟩ other found same
      rw [Option.some.injEq, Prod.mk.injEq] at same
      rw [← same.1, ← same.2]
      exact exactly.mp ⟨own, newer id entry.value rfl⟩
    · intro timely
      obtain ⟨own, newer⟩ := exactly.mpr (timely id entry.value rfl)
      refine ⟨own, ?_⟩
      intro other found same
      rw [Option.some.injEq, Prod.mk.injEq] at same
      rw [← same.1, ← same.2]
      exact newer

/-- Only a progress answer stores an entry. -/
theorem keepsNewer_of_quiet (input : DashboardInput) (nothing : page.stores input = none) :
    KeepsNewer page parse input := by
  intro id entry stored
  rw [nothing] at stored
  simp at stored

/-- A step that stores no entry is judged by the numbers alone. -/
theorem quiet_iff (input : DashboardInput) (nothing : page.stores input = none)
    (exactly : OwnNumbers (page.step input) ↔ TimelyStep page parse input) :
    OwnNumbers (page.step input) ∧ KeepsNewer page parse input ↔ TimelyStep page parse input := by
  rw [and_iff_left (keepsNewer_of_quiet page parse input nothing)]
  exact exactly

/-- Each step keeps every run described by its own numbers exactly if it is timely. -/
theorem step_ownNumbers_iff (input : DashboardInput) (before : OwnNumbers page) :
    OwnNumbers (page.step input) ∧ KeepsNewer page parse input ↔ TimelyStep page parse input := by
  have untouched (held : (page.step input).toHeld = page.toHeld) : OwnNumbers (page.step input) :=
    (ownNumbers_of_held _ _ held).mpr before
  cases input with
  | progressAnswer index answer => exact progressAnswer_ownNumbers_iff page parse index answer before
  | topologyAnswer answer =>
      apply quiet_iff _ _ _ rfl
      exact topologyAnswer_ownNumbers_iff page parse answer before
  | extractionsAnswer index answer =>
      apply quiet_iff _ _ _ rfl
      exact extractionsAnswer_ownNumbers_iff page parse index answer before
  | start session =>
      apply quiet_iff _ _ _ rfl
      exact iff_of_true (untouched (start_held page session)) trivial
  | stop =>
      apply quiet_iff _ _ _ rfl
      exact iff_of_true (stop_ownNumbers page) trivial
  | resume index =>
      apply quiet_iff _ _ _ rfl
      exact iff_of_true (resume_ownNumbers page index before) trivial
  | socketClosed code =>
      apply quiet_iff _ _ _ rfl
      exact iff_of_true (socketClosed_ownNumbers page code before) trivial
  | metricsAnswer index answer =>
      apply quiet_iff _ _ _ rfl
      exact iff_of_true (metricsAnswer_ownNumbers page index answer before) trivial
  | alertsAnswer index answer =>
      apply quiet_iff _ _ _ rfl
      exact iff_of_true (alertsAnswer_ownNumbers page index answer before) trivial
  | linksAnswer index answer =>
      apply quiet_iff _ _ _ rfl
      exact iff_of_true (linksAnswer_ownNumbers page index answer before) trivial
  | ticketAnswer answer =>
      apply quiet_iff _ _ _ rfl
      exact iff_of_true (untouched (ticketAnswer_quiet page answer).held) trivial
  | frame reading =>
      apply quiet_iff _ _ _ rfl
      exact iff_of_true (frame_ownNumbers page reading before) trivial
  | reconnectTick =>
      apply quiet_iff _ _ _ rfl
      exact iff_of_true (untouched (reconnectTick_quiet page).held) trivial
  | alertsTick =>
      apply quiet_iff _ _ _ rfl
      exact iff_of_true (untouched (fetchAlerts_quiet page).held) trivial
  | progressTick =>
      apply quiet_iff _ _ _ rfl
      exact iff_of_true (untouched (fetchRunProgress_quiet page).held) trivial

end Steps

/-- Every run is described by its own numbers exactly in the histories whose steps are timely. -/
theorem describesOwnRuns_iff (parse : Option String → Seconds) (history : List DashboardInput) :
    DescribesOwnRuns parse history ↔
      Guarded Dashboard.step {} (fun page input => TimelyStep page parse input) history := by
  apply guarded_iff Dashboard.step {} (fun page input => TimelyStep page parse input) OwnNumbers
    fun page input => KeepsNewer page parse input
  · intro id run entry drawn
    simp [Dashboard.draws] at drawn
  · intro input earlier before
    exact step_ownNumbers_iff _ parse input before

def firstRun : Run := { id := "1", status := "running", startedAt := some "2026-03-01T08:00:00Z" }

def secondRun : Run := { id := "2", status := "running", startedAt := some "2026-03-02T08:00:00Z" }

/-- The progress of the first run is stored, the list then shows the second run, and a live frame
redraws the headline before the progress of the second run is read. -/
def replacedRun : List DashboardInput :=
  [.frame { pipelines := ⟨[("discogs", ⟨[], [], true, false⟩)], List.nodup_singleton _⟩
            timestamp := 0 },
    .extractionsAnswer 0 (.ok [secondRun, firstRun]),
    .progressTick,
    .progressAnswer 0 (.ok (.object [("entities", .array []), ("queues", .array [])])),
    .resume 1,
    .extractionsAnswer 0 (.ok [firstRun]),
    .ticketAnswer (.ok "ticket"),
    .topologyAnswer (.ok ⟨[⟨"discogs", []⟩]⟩),
    .start (some 1)]

/-- The headline of the second run shows the numbers of the first. -/
theorem describesOwnRuns_fails : ¬DescribesOwnRuns (fun _ => 0) replacedRun := by
  intro describes
  have own := describes.1 replacedRun List.suffix_rfl "discogs" secondRun
    ⟨firstRun.progressKey, some (.object [("entities", .array []), ("queues", .array [])]), none⟩
    rfl rfl rfl
  exact absurd own (by decide)

end OperationsConsole.Browser
