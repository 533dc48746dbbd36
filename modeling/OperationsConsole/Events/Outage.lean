/-
This file proves what an outage of one pipeline does to the memory of the detector.
It collects the isolation of the pipelines into one result.
-/

import OperationsConsole.Events.Isolation

namespace OperationsConsole

open Library

/-- The detector remembers nothing of the queues of a pipeline. -/
structure QueuesForgotten (state : Detector) (pipelineId : String) : Prop where
  dlqDepth : ∀ name, state.dlqDepth.get? (pipelineId, name) = none
  zeroSince : ∀ name, state.zeroSince.get? (pipelineId, name) = none
  seenAt : ∀ name, state.seenAt.get? (pipelineId, name) = none
  conditions : ∀ name, state.conditions.get? (pipelineId, name) = none
  awaitingSince : ∀ name, state.awaitingSince.get? (pipelineId, name) = none

/-- The scrape of a pipeline failed in a reading. -/
def ScrapeFailed (pipelineId : String) (metrics : SystemMetrics) : Prop :=
  ∃ pipeline, metrics.pipelines.get? pipelineId = some pipeline ∧ pipeline.queuesAvailable = false

/-- No scrape of a pipeline succeeded in a reading. -/
def NotScraped (pipelineId : String) (metrics : SystemMetrics) : Prop :=
  ∀ pipeline, metrics.pipelines.get? pipelineId = some pipeline → pipeline.queuesAvailable = false

/-- An event is about a dead letter queue or a work queue. -/
def IsQueueEvent (event : Event) : Prop :=
  "dlq-".toList <+: event.kind.toList ∨ "queue-".toList <+: event.kind.toList

section Outage

variable (config : DetectorConfig) (pipelineId : String)

theorem queuesForgotten_iff (state : Detector) :
    QueuesForgotten state pipelineId ↔
      (state.pipelineMemory pipelineId).dlqDepth = (fun _ => none) ∧
        (state.pipelineMemory pipelineId).queues = fun _ => {} := by
  constructor
  · intro forgotten
    constructor
    · funext name
      exact forgotten.dlqDepth name
    · funext name
      show state.memory (pipelineId, name) = {}
      unfold Detector.memory
      rw [forgotten.zeroSince, forgotten.seenAt, forgotten.conditions, forgotten.awaitingSince]
  · intro ⟨depths, queues⟩
    have memory : ∀ name, state.memory (pipelineId, name) = {} := congrFun queues
    exact {
      dlqDepth := congrFun depths
      zeroSince := fun name => congrArg (fun memory => memory.watch.since) (memory name)
      seenAt := fun name => congrArg (fun memory => memory.watch.seen) (memory name)
      conditions := fun name => congrArg QueueMemory.condition (memory name)
      awaitingSince := fun name => congrArg QueueMemory.awaitingSince (memory name) }

/-- The pass of a failed scrape forgets the queues of its pipeline. -/
theorem failedPass_forgets (now : Seconds) (state : Detector) (pipeline : PipelineMetrics)
    (failed : pipeline.queuesAvailable = false) :
    QueuesForgotten (pipelineStep config now state (pipelineId, pipeline)).1 pipelineId := by
  rw [queuesForgotten_iff]
  unfold pipelineStep beforeWorkQueues workQueuesOf
  dsimp only
  rw [brokerOf_eq, failed]
  simp only [Bool.false_eq_true, if_false]
  rw [forgetWorkQueues_pipeline, if_pos rfl, forgetDepths_pipeline, if_pos rfl]
  exact ⟨rfl, rfl⟩

theorem failedScrape_forgets (state : Detector) (metrics : SystemMetrics)
    (failed : ScrapeFailed pipelineId metrics) :
    QueuesForgotten (observe config state metrics).state pipelineId := by
  obtain ⟨pipeline, listed, unavailable⟩ := failed
  have forgotten := failedPass_forgets config pipelineId metrics.timestamp state pipeline unavailable
  rw [queuesForgotten_iff] at forgotten ⊢
  rw [(own_pass config state metrics pipelineId pipeline listed).2]
  exact forgotten

/-- What is remembered of another pipeline does not depend on a pipeline of the reading. -/
theorem otherPipeline_unaffected (state : Detector) (metrics : SystemMetrics) (other : String)
    (different : other ≠ pipelineId) :
    (observe config state metrics).state.pipelineMemory other =
      (observe config state { metrics with
        pipelines := metrics.pipelines.erase pipelineId }).state.pipelineMemory other := by
  have same : (metrics.pipelines.erase pipelineId).get? other = metrics.pipelines.get? other := by
    rw [Dict.get?_erase, if_neg different]
  cases listed : metrics.pipelines.get? other with
  | none =>
      rw [unlisted_pass config state metrics other listed]
      exact (unlisted_pass config state _ other (same.trans listed)).symm
  | some pipeline =>
      rw [(own_pass config state metrics other pipeline listed).2]
      exact (own_pass config state { metrics with
        pipelines := metrics.pipelines.erase pipelineId } other pipeline (same.trans listed)).2.symm

/-- A pipeline without a successful scrape stays forgotten. -/
theorem stays_forgotten (state : Detector) (history : List SystemMetrics)
    (forgotten : QueuesForgotten state pipelineId)
    (silent : ∀ metrics ∈ history, NotScraped pipelineId metrics) :
    QueuesForgotten (detectorFrom config state history) pipelineId := by
  induction history with
  | nil => exact forgotten
  | cons metrics earlier ih =>
      have before := ih fun other member => silent other (List.mem_cons_of_mem _ member)
      show QueuesForgotten (observe config (detectorFrom config state earlier) metrics).state
        pipelineId
      cases listed : metrics.pipelines.get? pipelineId with
      | none =>
          rw [queuesForgotten_iff] at before ⊢
          rw [unlisted_pass config _ metrics pipelineId listed]
          exact before
      | some pipeline =>
          apply failedScrape_forgets
          exact ⟨pipeline, listed, silent metrics List.mem_cons_self pipeline listed⟩

end Outage

section Recovery

variable (config : DetectorConfig) (pipelineId : String) (pipeline : PipelineMetrics)

/-- An entry of a queue that is listed once comes after entries of other queues only. -/
theorem listedOnce_before (name : String) (before rest : List QueueInfo) (queue : QueueInfo)
    (once : (pipeline.entries name).length = 1) (split : pipeline.queues = before ++ queue :: rest)
    (named : queue.name = name) : ∀ other ∈ before, other.name ≠ name := by
  intro other member same
  unfold PipelineMetrics.entries at once
  rw [split, List.filter_append, List.filter_cons_of_pos (by simpa using named),
    List.length_append, List.length_cons] at once
  have kept : other ∈ before.filter fun queue => queue.name = name :=
    List.mem_filter.mpr ⟨member, by simpa using same⟩
  have positive := List.length_pos_of_mem kept
  omega

/-- A dead letter queue without a remembered depth makes no news at its first entry. -/
theorem deadLetterLoop_quiet (state : Detector) (name : String)
    (once : (pipeline.entries name).length = 1)
    (unknown : (state.pipelineMemory pipelineId).dlqDepth name = none) (found : Found)
    (member : found ∈ (loop (deadLetterStep config pipelineId) state pipeline.queues).2.flatten) :
    found.subject ≠ name := by
  intro subject
  obtain ⟨⟨reached, queue⟩, visited, inside⟩ := mem_loop_flatten _ _ _ _ member
  rw [mem_visits_iff] at visited
  obtain ⟨before, rest, split, arrived⟩ := visited
  dsimp only at inside split arrived
  rw [deadLetterStep_found] at inside
  split at inside
  · have named : queue.name = name := by
      rw [← subject]
      unfold depthFound at inside
      split at inside
      · simp at inside
      · split at inside
        · simp at inside
        · split at inside
          · rw [List.mem_singleton.mp inside]
          · split at inside
            · rw [List.mem_singleton.mp inside]
            · simp at inside
    have others := listedOnce_before pipeline name before rest queue once split named
    have still : (reached.pipelineMemory pipelineId).dlqDepth name = none := by
      rw [arrived, ← unknown]
      apply loop_frame (deadLetterStep config pipelineId)
        (fun state => (state.pipelineMemory pipelineId).dlqDepth name)
      intro state other member
      rw [deadLetterStep_pipeline]
      split
      · exact Function.update_of_ne (others other member).symm _ _
      · rfl
    rw [named, still] at inside
    simp [depthFound] at inside
  · simp at inside

/-- A work queue without a memory makes no news at its first entry. -/
theorem workQueueLoop_quiet (now : Seconds) (state : Detector) (name : String)
    (once : (pipeline.entries name).length = 1)
    (unknown : state.memory (pipelineId, name) = {}) (found : Found)
    (member : found ∈ ((loop (workQueueStep config pipelineId pipeline now) state
      pipeline.queues).2.map QueueOutcome.found).flatten) : found.subject ≠ name := by
  intro subject
  rw [List.mem_flatten] at member
  obtain ⟨founds, listed, inside⟩ := member
  obtain ⟨outcome, result, same⟩ := List.mem_map.mp listed
  rw [mem_loop_results] at result
  obtain ⟨⟨reached, queue⟩, visited, equal⟩ := result
  rw [mem_visits_iff] at visited
  obtain ⟨before, rest, split, arrived⟩ := visited
  by_cases work : queue.name ∈ config.workQueues
  · rw [workQueueStep_outcome _ _ _ _ _ _ work] at equal
    rw [← same, ← equal] at inside
    dsimp only at inside arrived
    have named : queue.name = name := by
      rw [← subject]
      unfold announcement at inside
      dsimp only at inside
      split at inside
      · simp at inside
      · split at inside <;> rw [List.mem_singleton.mp inside]
    have others := listedOnce_before pipeline name before rest queue once split named
    have still : reached.memory (pipelineId, name) = {} := by
      rw [arrived, ← unknown]
      apply loop_frame (workQueueStep config pipelineId pipeline now)
        (fun state => state.memory (pipelineId, name))
      intro state other member
      apply workQueueStep_memory_other
      exact fun equal => others other member (congrArg Prod.snd equal).symm
    rw [named, still] at inside
    simp [announcement] at inside
  · rw [workQueueStep_of_other _ _ _ _ _ _ work] at equal
    rw [← same, ← equal] at inside
    simp at inside

/-- The event of a status is not about a queue. -/
theorem not_isQueueEvent (event : Event) (kind : event.kind ∈ statusKinds) :
    ¬ IsQueueEvent event := by
  have plain : ∀ kind ∈ statusKinds,
      ¬ ("dlq-".toList <+: kind.toList ∨ "queue-".toList <+: kind.toList) := by
    decide
  exact plain event.kind kind

/-- A pipeline whose queues are forgotten announces nothing of a queue that it lists once. -/
theorem forgotten_quiet (state : Detector) (metrics : SystemMetrics) (name : String)
    (forgotten : QueuesForgotten state pipelineId)
    (listed : metrics.pipelines.get? pipelineId = some pipeline)
    (once : (pipeline.entries name).length = 1) (event : Event)
    (member : event ∈ pipelineEvents config state metrics pipelineId)
    (about : IsQueueEvent event) : event.subject ≠ name := by
  obtain ⟨depths, queues⟩ := (queuesForgotten_iff pipelineId state).mp forgotten
  have told : event.content ∈ (pipelineEvents config state metrics pipelineId).map Event.content :=
    List.mem_map_of_mem member
  rw [pipelineEvents_content config state metrics pipelineId pipeline listed, List.mem_map] at told
  obtain ⟨found, inside, content⟩ := told
  have same : found = event.found := congrArg Prod.snd content
  have unknown : ((noteAvailable pipelineId pipeline.queuesAvailable
      (servicesOf pipelineId pipeline.services state).1).pipelineMemory pipelineId).dlqDepth name =
        none := by
    rw [← congrFun depths name]
    apply loop_frame (serviceStep pipelineId)
      (fun state => (state.pipelineMemory pipelineId).dlqDepth name)
    intro state service _
    obtain ⟨services, next⟩ := serviceStep_state pipelineId state service
    rw [next]
    rfl
  have empty : (beforeWorkQueues config state (pipelineId, pipeline)).1.memory (pipelineId, name) =
      {} := by
    rw [beforeWorkQueues_memory]
    exact congrFun queues name
  have plain : found.kind ∉ statusKinds := by
    intro kind
    rw [same] at kind
    exact not_isQueueEvent event kind about
  show event.found.subject ≠ name
  rw [← same]
  unfold pipelineStep at inside
  dsimp only at inside
  rw [List.mem_append] at inside
  rcases inside with before | work
  · unfold beforeWorkQueues at before
    dsimp only at before
    rw [brokerOf_eq, List.mem_append] at before
    rcases before with service | broker
    · obtain ⟨visit, _, told⟩ := mem_loop_flatten _ _ _ _ service
      exact absurd (serviceStep_kind pipelineId visit.1 visit.2 found told) plain
    · split at broker
      · rw [List.mem_append] at broker
        rcases broker with announced | depth
        · exact absurd (availabilityFound_kind pipelineId _ _ found announced) plain
        · exact deadLetterLoop_quiet config pipelineId pipeline _ name once unknown found depth
      · exact absurd (availabilityFound_kind pipelineId _ _ found broker) plain
  · unfold workQueuesOf at work
    split at work
    · exact workQueueLoop_quiet config pipelineId pipeline metrics.timestamp _ name once empty found
        work
    · simp at work

end Recovery

/-- A pipeline is isolated: its reports depend on its own readings and on what the detector
remembers of it, an outage forgets its queues and nothing of another pipeline, and the first scrape
after the outage announces no queue that it lists once. -/
structure PipelineIsolated (config : DetectorConfig) (pipelineId : String) : Prop where
  determined : ∀ first second : Detector,
    first.pipelineMemory pipelineId = second.pipelineMemory pipelineId →
      ∀ firstRun secondRun : List SystemMetrics,
        firstRun.filterMap (ownReading pipelineId) = secondRun.filterMap (ownReading pipelineId) →
          pipelineReports config pipelineId first firstRun =
            pipelineReports config pipelineId second secondRun
  forgotten : ∀ (state : Detector) (metrics : SystemMetrics), ScrapeFailed pipelineId metrics →
    QueuesForgotten (observe config state metrics).state pipelineId
  unaffected : ∀ (state : Detector) (metrics : SystemMetrics) (other : String),
    other ≠ pipelineId → (observe config state metrics).state.pipelineMemory other =
      (observe config state { metrics with
        pipelines := metrics.pipelines.erase pipelineId }).state.pipelineMemory other
  quiet : ∀ (state : Detector) (failed : SystemMetrics) (outage : List SystemMetrics)
    (metrics : SystemMetrics) (pipeline : PipelineMetrics) (name : String),
    ScrapeFailed pipelineId failed → (∀ reading ∈ outage, NotScraped pipelineId reading) →
      metrics.pipelines.get? pipelineId = some pipeline → pipeline.queuesAvailable = true →
        (pipeline.entries name).length = 1 →
          ∀ event ∈ pipelineEvents config (detectorFrom config state (outage ++ [failed])) metrics
            pipelineId, IsQueueEvent event → event.subject ≠ name

/-- A pipeline is told by its own readings only, and its outage is silent for the others. -/
theorem pipeline_isolated (config : DetectorConfig) (pipelineId : String) :
    PipelineIsolated config pipelineId := by
  constructor
  · intro first second agree firstRun secondRun same
    rw [(run_solo config pipelineId first firstRun).1,
      (run_solo config pipelineId second secondRun).1, same]
    exact (solo_determined config pipelineId _ first second agree).1
  · intro state metrics failed
    exact failedScrape_forgets config pipelineId state metrics failed
  · intro state metrics other different
    exact otherPipeline_unaffected config pipelineId state metrics other different
  · intro state failed outage metrics pipeline name broken silent listed _ once event member about
    have start := failedScrape_forgets config pipelineId state failed broken
    have still := stays_forgotten config pipelineId _ outage start silent
    have split : detectorFrom config state (outage ++ [failed]) =
        detectorFrom config (observe config state failed).state outage := after_append _ _ _ _
    rw [split] at member
    exact forgotten_quiet config pipelineId pipeline _ metrics name still listed once event member
      about

end OperationsConsole
