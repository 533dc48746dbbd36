/-
This file lists the visits that one reading makes to the work queues.
A visit holds the state in which the detector reaches one entry of a work queue.
-/

import OperationsConsole.Events.QueueMemory

namespace OperationsConsole

open Library

structure QueueVisit where
  before : Detector
  pipelineId : String
  pipeline : PipelineMetrics
  queue : QueueInfo

namespace QueueVisit

def key (visit : QueueVisit) : QueueKey := (visit.pipelineId, visit.queue.name)

/-- The memory of the visited queue just before the visit. -/
def memory (visit : QueueVisit) : QueueMemory := visit.before.memory visit.key

def outcome (config : DetectorConfig) (now : Seconds) (visit : QueueVisit) : QueueOutcome :=
  (workQueueStep config visit.pipelineId visit.pipeline now visit.before visit.queue).2

/-- The kind of the condition that the visit sets on its entry. -/
def conditionKind (config : DetectorConfig) (now : Seconds) (visit : QueueVisit) :
    Option ConditionKind :=
  (visit.outcome config now).queue.condition.map QueueCondition.kind

end QueueVisit

/-- These are the visits to the work queues of one pipeline. -/
def pipelineVisits (config : DetectorConfig) (now : Seconds) (state : Detector)
    (item : String × PipelineMetrics) : List QueueVisit :=
  if item.2.queuesAvailable then
    ((visits (workQueueStep config item.1 item.2 now) (beforeWorkQueues config state item).1
      item.2.queues).filter fun visit => visit.2.name ∈ config.workQueues).map
        fun visit => ⟨visit.1, item.1, item.2, visit.2⟩
  else []

/-- These are the visits to every work queue of one reading. -/
def queueVisits (config : DetectorConfig) (state : Detector) (metrics : SystemMetrics) :
    List QueueVisit :=
  (visits (pipelineStep config metrics.timestamp) state metrics.pipelines.items).flatMap
    fun visit => pipelineVisits config metrics.timestamp visit.1 visit.2

/-- A visit to a pipeline's work queue comes after the entries before it. -/
theorem mem_pipelineVisits (config : DetectorConfig) (now : Seconds) (state : Detector)
    (item : String × PipelineMetrics) (visit : QueueVisit) :
    visit ∈ pipelineVisits config now state item ↔
      item.2.queuesAvailable ∧ visit.queue.name ∈ config.workQueues ∧
        visit.pipelineId = item.1 ∧ visit.pipeline = item.2 ∧
        ∃ before rest, item.2.queues = before ++ visit.queue :: rest ∧
          visit.before = (loop (workQueueStep config item.1 item.2 now)
            (beforeWorkQueues config state item).1 before).1 := by
  unfold pipelineVisits
  split
  · rename_i available
    simp only [List.mem_map, List.mem_filter, mem_visits_iff, decide_eq_true_eq, available, true_and]
    constructor
    · rintro ⟨⟨reached, queue⟩, ⟨⟨before, rest, split, state⟩, work⟩, rfl⟩
      exact ⟨work, rfl, rfl, before, rest, split, state⟩
    · rintro ⟨work, id, pipeline, before, rest, split, state⟩
      refine ⟨(visit.before, visit.queue), ⟨⟨before, rest, split, state⟩, work⟩, ?_⟩
      cases visit
      simp only at id pipeline
      rw [id, pipeline]
  · rename_i unavailable
    simp [unavailable]

/-- A visited entry is a work queue of an available pipeline of the reading. -/
theorem mem_queueVisits_reading (config : DetectorConfig) (state : Detector)
    (metrics : SystemMetrics) (visit : QueueVisit)
    (member : visit ∈ queueVisits config state metrics) :
    visit.queue.name ∈ config.workQueues ∧
      metrics.pipelines.get? visit.pipelineId = some visit.pipeline ∧
      visit.pipeline.queuesAvailable := by
  rw [queueVisits, List.mem_flatMap] at member
  obtain ⟨outer, reached, inner⟩ := member
  rw [mem_pipelineVisits] at inner
  obtain ⟨available, work, id, pipeline, _⟩ := inner
  refine ⟨work, ?_, by rw [pipeline]; exact available⟩
  rw [Dict.get?_eq_some_iff, id, pipeline]
  exact mem_visits_item _ _ _ _ reached

/-- The pipelines before a pipeline of the same reading leave its memory unchanged. -/
theorem pipeline_visit_memory (config : DetectorConfig) (state : Detector)
    (metrics : SystemMetrics) (outer : Detector × String × PipelineMetrics)
    (reached : outer ∈ visits (pipelineStep config metrics.timestamp) state metrics.pipelines.items)
    (name : String) (work : name ∈ config.workQueues) :
    outer.1.memory (outer.2.1, name) = state.memory (outer.2.1, name) := by
  rw [mem_visits_iff] at reached
  obtain ⟨earlier, later, items, arrived⟩ := reached
  rw [arrived]
  refine loop_frame (pipelineStep config metrics.timestamp)
    (fun state => state.memory (outer.2.1, name)) earlier state ?_
  intro state item inside
  rw [pipelineStep_memory config _ state item _ work, if_neg]
  intro same
  have unique := metrics.pipelines.nodup
  rw [items, List.map_append, List.map_cons, List.nodup_append] at unique
  exact unique.2.2 item.1 (List.mem_map.mpr ⟨item, inside, rfl⟩) outer.2.1 List.mem_cons_self same

/-- A visit finds the memory of its queue after the entries of that queue before it. -/
theorem visit_memory (config : DetectorConfig) (state : Detector) (metrics : SystemMetrics)
    (visit : QueueVisit) (member : visit ∈ queueVisits config state metrics) :
    ∃ before rest, visit.pipeline.queues = before ++ visit.queue :: rest ∧
      visit.memory = (state.memory visit.key).seeAll config visit.pipeline metrics.timestamp
        (before.filter fun queue => queue.name = visit.queue.name) := by
  have work := (mem_queueVisits_reading config state metrics visit member).1
  rw [queueVisits, List.mem_flatMap] at member
  obtain ⟨outer, reached, inner⟩ := member
  rw [mem_pipelineVisits] at inner
  obtain ⟨_, _, id, pipeline, before, rest, split, arrived⟩ := inner
  refine ⟨before, rest, by rw [pipeline]; exact split, ?_⟩
  have passed := pipeline_visit_memory config state metrics outer reached visit.queue.name work
  have same : visit.key = (outer.2.1, visit.queue.name) := Prod.ext id rfl
  rw [QueueVisit.memory, arrived, same, workQueueLoop_memory _ _ _ _ _ _ _ work,
    beforeWorkQueues_memory, passed, if_pos rfl, pipeline]

/-- The detector visits every entry of a work queue in an available pipeline. -/
theorem exists_visit (config : DetectorConfig) (state : Detector) (metrics : SystemMetrics)
    (pipelineId : String) (pipeline : PipelineMetrics) (before rest : List QueueInfo)
    (queue : QueueInfo) (listed : metrics.pipelines.get? pipelineId = some pipeline)
    (available : pipeline.queuesAvailable) (split : pipeline.queues = before ++ queue :: rest)
    (work : queue.name ∈ config.workQueues) :
    ∃ visit ∈ queueVisits config state metrics, visit.pipelineId = pipelineId ∧
      visit.pipeline = pipeline ∧ visit.queue = queue ∧
      visit.memory = (state.memory (pipelineId, queue.name)).seeAll config pipeline
        metrics.timestamp (before.filter fun other => other.name = queue.name) := by
  rw [Dict.get?_eq_some_iff] at listed
  obtain ⟨earlier, later, items⟩ := List.append_of_mem listed
  let outer : Detector × String × PipelineMetrics :=
    ((loop (pipelineStep config metrics.timestamp) state earlier).1, pipelineId, pipeline)
  have reached : outer ∈
      visits (pipelineStep config metrics.timestamp) state metrics.pipelines.items :=
    (mem_visits_iff _ _ _ _).mpr ⟨earlier, later, items, rfl⟩
  let visit : QueueVisit := ⟨(loop (workQueueStep config pipelineId pipeline metrics.timestamp)
    (beforeWorkQueues config outer.1 outer.2).1 before).1, pipelineId, pipeline, queue⟩
  refine ⟨visit, ?_, rfl, rfl, rfl, ?_⟩
  · rw [queueVisits, List.mem_flatMap]
    refine ⟨outer, reached, ?_⟩
    rw [mem_pipelineVisits]
    exact ⟨available, work, rfl, rfl, before, rest, split, rfl⟩
  · have passed := pipeline_visit_memory config state metrics outer reached queue.name work
    change Detector.memory (loop _ _ before).1 (pipelineId, queue.name) = _
    rw [workQueueLoop_memory _ _ _ _ _ _ _ work, beforeWorkQueues_memory, if_pos rfl]
    exact congrArg (fun memory => QueueMemory.seeAll config pipeline metrics.timestamp memory _)
      passed

/-- A visit sets the condition of its queue's own machine. -/
theorem visit_outcome (config : DetectorConfig) (state : Detector) (metrics : SystemMetrics)
    (visit : QueueVisit) (member : visit ∈ queueVisits config state metrics) :
    visit.outcome config metrics.timestamp =
      let condition := visit.memory.conditionAt config.awaitingMarkerSeconds metrics.timestamp
        (listedAsAwaiting config visit.pipeline visit.queue) visit.queue
      ⟨{ visit.queue with condition := condition },
        announcement visit.memory.condition condition visit.queue⟩ :=
  workQueueStep_outcome config visit.pipelineId visit.pipeline metrics.timestamp visit.before
    visit.queue (mem_queueVisits_reading config state metrics visit member).1

end OperationsConsole
