/-
This file counts the events that one reading announces of a queue.
A queue makes news at most as often as the scrapes of the reading list its name.
-/

import OperationsConsole.Events.Outage
import OperationsConsole.Library.KeyedLoop

namespace OperationsConsole

open Library

def dlqFamily : List Char := "dlq-".toList

def queueFamily : List Char := "queue-".toList

/-- A transition is about a queue and has a kind of a family. -/
def newsOf (family : List Char) (name : String) (found : Found) : Bool :=
  decide (family <+: found.kind.toList) && decide (found.subject = name)

/-- The entries of a reading come from the scrapes that succeeded. -/
def scrapedQueues (metrics : SystemMetrics) : List QueueInfo :=
  metrics.pipelines.items.flatMap fun item =>
    if item.2.queuesAvailable then item.2.queues else []

/-- An entry of a watched queue has a name. -/
def watches (watched : List String) (name : String) (queue : QueueInfo) : Bool :=
  decide (queue.name ∈ watched) && decide (queue.name = name)

/-- No watched queue name is listed twice. -/
def ListedOnce (watched : List String) (metrics : SystemMetrics) : Prop :=
  (((scrapedQueues metrics).filter fun queue => queue.name ∈ watched).map QueueInfo.name).Nodup

/-- A queue that is listed once is watched at most once. -/
theorem listedOnce_countP (watched : List String) (metrics : SystemMetrics)
    (once : ListedOnce watched metrics) (name : String) :
    (scrapedQueues metrics).countP (watches watched name) ≤ 1 := by
  have counted := List.nodup_iff_count_le_one.mp once name
  rw [List.count_eq_countP, List.countP_map, List.countP_filter] at counted
  refine Nat.le_trans (Nat.le_of_eq ?_) counted
  apply List.countP_congr
  intro queue _
  simp [watches, and_comm]

/-- Kinds outside a family make no news of it. -/
theorem newsOf_none (family : List Char) (name : String) (founds : List Found)
    (outside : ∀ found ∈ founds, ¬ family <+: found.kind.toList) :
    founds.countP (newsOf family name) = 0 := by
  rw [List.countP_eq_zero]
  intro found member news
  simp only [newsOf, Bool.and_eq_true, decide_eq_true_eq] at news
  exact outside found member news.1

/-- The kinds of a status are outside both families. -/
theorem status_outside (found : Found) (status : found.kind ∈ statusKinds) :
    ¬ dlqFamily <+: found.kind.toList ∧ ¬ queueFamily <+: found.kind.toList := by
  have both : ∀ kind ∈ statusKinds,
      ¬ dlqFamily <+: kind.toList ∧ ¬ queueFamily <+: kind.toList := by
    decide
  exact both found.kind status

/-- A depth is no news of the other family. -/
theorem depth_outside (before : Option ℤ) (queue : QueueInfo) (found : Found)
    (member : found ∈ depthFound before queue) :
    ¬ queueFamily <+: found.kind.toList ∧ found.subject = queue.name := by
  have both : ∀ kind ∈ ["dlq-grew", "dlq-emptied"], ¬ queueFamily <+: kind.toList := by
    decide
  unfold depthFound at member
  split at member
  · simp at member
  · split at member
    · simp at member
    · split at member
      · rw [List.mem_singleton.mp member]
        exact ⟨both _ (by simp), rfl⟩
      · split at member
        · rw [List.mem_singleton.mp member]
          exact ⟨both _ (by simp), rfl⟩
        · simp at member

/-- A condition is no news of the other family. -/
theorem announcement_outside (known : Option (Option ConditionKind))
    (condition : Option QueueCondition) (queue : QueueInfo) (found : Found)
    (member : found ∈ announcement known condition queue) :
    ¬ dlqFamily <+: found.kind.toList ∧ found.subject = queue.name := by
  have fault : ∀ kind, ¬ dlqFamily <+: ("queue-" ++ kindText kind).toList := by
    intro kind
    cases kind with
    | none => decide
    | some kind => cases kind <;> decide
  have recovered : ¬ dlqFamily <+: "queue-recovered".toList := by
    decide
  unfold announcement at member
  dsimp only at member
  split at member
  · simp at member
  · split at member
    · rw [List.mem_singleton.mp member]
      exact ⟨fault _, rfl⟩
    · rw [List.mem_singleton.mp member]
      exact ⟨recovered, rfl⟩

theorem depthFound_length (before : Option ℤ) (queue : QueueInfo) :
    (depthFound before queue).length ≤ 1 := by
  unfold depthFound
  split
  · simp
  · split
    · simp
    · split
      · simp
      · split <;> simp

theorem announcement_length (known : Option (Option ConditionKind))
    (condition : Option QueueCondition) (queue : QueueInfo) :
    (announcement known condition queue).length ≤ 1 := by
  unfold announcement
  dsimp only
  split
  · simp
  · split <;> simp

/-- An entry that makes at most one news of its own name makes it when it is watched. -/
theorem newsOf_entry (family : List Char) (watched : List String) (name : String)
    (queue : QueueInfo) (founds : List Found) (single : founds.length ≤ 1)
    (own : ∀ found ∈ founds, found.subject = queue.name)
    (quiet : queue.name ∉ watched → founds = []) :
    founds.countP (newsOf family name) ≤ [queue].countP (watches watched name) := by
  by_cases listed : queue.name ∈ watched ∧ queue.name = name
  · have counted : [queue].countP (watches watched name) = 1 := by
      simp [watches, ← listed.2, listed.1]
    have bound := List.countP_le_length (p := newsOf family name) (l := founds)
    omega
  · have none_counted : founds.countP (newsOf family name) = 0 := by
      rw [List.countP_eq_zero]
      intro found member news
      simp only [newsOf, Bool.and_eq_true, decide_eq_true_eq] at news
      apply listed
      constructor
      · by_contra unwatched
        rw [quiet unwatched] at member
        simp at member
      · rw [← own found member, news.2]
    omega

section Passes

variable (config : DetectorConfig) (now : Seconds) (pipelineId name : String)
variable (pipeline : PipelineMetrics) (state : Detector)

/-- The services tell no news of a queue. -/
theorem servicesOf_news (services : List ServiceStatus) :
    (servicesOf pipelineId services state).2.countP (newsOf dlqFamily name) = 0 ∧
      (servicesOf pipelineId services state).2.countP (newsOf queueFamily name) = 0 := by
  have outside : ∀ found ∈ (servicesOf pipelineId services state).2,
      ¬ dlqFamily <+: found.kind.toList ∧ ¬ queueFamily <+: found.kind.toList := by
    intro found member
    obtain ⟨visit, _, told⟩ := mem_loop_flatten _ _ _ _ member
    exact status_outside found (serviceStep_kind pipelineId visit.1 visit.2 found told)
  exact ⟨newsOf_none _ _ _ fun found member => (outside found member).1,
    newsOf_none _ _ _ fun found member => (outside found member).2⟩

/-- The broker's state is no news of a queue. -/
theorem availability_news (previous : Option Bool) (available : Bool) :
    (availabilityFound pipelineId previous available).countP (newsOf dlqFamily name) = 0 ∧
      (availabilityFound pipelineId previous available).countP (newsOf queueFamily name) = 0 := by
  have outside : ∀ found ∈ availabilityFound pipelineId previous available,
      ¬ dlqFamily <+: found.kind.toList ∧ ¬ queueFamily <+: found.kind.toList := by
    intro found member
    exact status_outside found (availabilityFound_kind pipelineId previous available found member)
  exact ⟨newsOf_none _ _ _ fun found member => (outside found member).1,
    newsOf_none _ _ _ fun found member => (outside found member).2⟩

/-- A dead-letter queue is told at most as often as it is watched. -/
theorem deadLetterLoop_news (queues : List QueueInfo) :
    (loop (deadLetterStep config pipelineId) state queues).2.flatten.countP
        (newsOf dlqFamily name) ≤ queues.countP (watches config.deadLetterQueues name) ∧
      (loop (deadLetterStep config pipelineId) state queues).2.flatten.countP
        (newsOf queueFamily name) = 0 := by
  constructor
  · have counted := countP_loop_le (deadLetterStep config pipelineId) id (newsOf dlqFamily name)
      (fun queue => [queue]) (watches config.deadLetterQueues name) queues state
    rw [List.map_id, List.flatMap_singleton'] at counted
    apply counted
    intro state queue _
    apply newsOf_entry
    · show (deadLetterStep config pipelineId state queue).2.length ≤ 1
      rw [deadLetterStep_found]
      split
      · exact depthFound_length _ _
      · simp
    · intro found member
      change found ∈ (deadLetterStep config pipelineId state queue).2 at member
      rw [deadLetterStep_found] at member
      split at member
      · exact (depth_outside _ _ found member).2
      · simp at member
    · intro unwatched
      show (deadLetterStep config pipelineId state queue).2 = []
      rw [deadLetterStep_found, if_neg unwatched]
  · apply newsOf_none
    intro found member
    obtain ⟨visit, _, told⟩ := mem_loop_flatten _ _ _ _ member
    rw [deadLetterStep_found] at told
    split at told
    · exact (depth_outside _ _ found told).1
    · simp at told

theorem workQueueStep_found_outside (queue : QueueInfo) (found : Found)
    (member : found ∈ (workQueueStep config pipelineId pipeline now state queue).2.found) :
    ¬ dlqFamily <+: found.kind.toList ∧ found.subject = queue.name := by
  by_cases work : queue.name ∈ config.workQueues
  · rw [workQueueStep_outcome _ _ _ _ _ _ work] at member
    exact announcement_outside _ _ _ found member
  · rw [workQueueStep_of_other _ _ _ _ _ _ work] at member
    simp at member

/-- A work queue is told at most as often as it is watched. -/
theorem workQueueLoop_news (queues : List QueueInfo) :
    ((loop (workQueueStep config pipelineId pipeline now) state queues).2.map
        QueueOutcome.found).flatten.countP (newsOf dlqFamily name) = 0 ∧
      ((loop (workQueueStep config pipelineId pipeline now) state queues).2.map
        QueueOutcome.found).flatten.countP (newsOf queueFamily name) ≤
          queues.countP (watches config.workQueues name) := by
  constructor
  · apply newsOf_none
    intro found member
    rw [List.mem_flatten] at member
    obtain ⟨founds, listed, inside⟩ := member
    obtain ⟨outcome, result, same⟩ := List.mem_map.mp listed
    rw [mem_loop_results] at result
    obtain ⟨visit, _, equal⟩ := result
    rw [← same, ← equal] at inside
    exact (workQueueStep_found_outside config now pipelineId pipeline _ _ found inside).1
  · have counted := countP_loop_le (workQueueStep config pipelineId pipeline now)
      QueueOutcome.found (newsOf queueFamily name) (fun queue => [queue])
      (watches config.workQueues name) queues state
    rw [List.flatMap_singleton'] at counted
    apply counted
    intro state queue _
    apply newsOf_entry
    · by_cases work : queue.name ∈ config.workQueues
      · rw [workQueueStep_outcome _ _ _ _ _ _ work]
        exact announcement_length _ _ _
      · rw [workQueueStep_of_other _ _ _ _ _ _ work]
        simp
    · intro found member
      exact (workQueueStep_found_outside config now pipelineId pipeline _ _ found member).2
    · intro unwatched
      rw [workQueueStep_of_other _ _ _ _ _ _ unwatched]

/-- A pipeline makes news of a name at most as often as its scrape lists the name. -/
theorem pipelineStep_news :
    (pipelineStep config now state (pipelineId, pipeline)).2.found.countP
        (newsOf dlqFamily name) ≤
        (if pipeline.queuesAvailable then pipeline.queues else []).countP
          (watches config.deadLetterQueues name) ∧
      (pipelineStep config now state (pipelineId, pipeline)).2.found.countP
        (newsOf queueFamily name) ≤
        (if pipeline.queuesAvailable then pipeline.queues else []).countP
          (watches config.workQueues name) := by
  have services := servicesOf_news pipelineId name state pipeline.services
  have availability := availability_news pipelineId name
    ((servicesOf pipelineId pipeline.services state).1.available.get? pipelineId)
    pipeline.queuesAvailable
  unfold pipelineStep beforeWorkQueues workQueuesOf
  dsimp only
  rw [brokerOf_eq]
  split
  · have depths := deadLetterLoop_news config pipelineId name
      (noteAvailable pipelineId pipeline.queuesAvailable
        (servicesOf pipelineId pipeline.services state).1) pipeline.queues
    have work := workQueueLoop_news config now pipelineId name pipeline
      (loop (deadLetterStep config pipelineId) (noteAvailable pipelineId pipeline.queuesAvailable
        (servicesOf pipelineId pipeline.services state).1) pipeline.queues).1 pipeline.queues
    simp only [List.countP_append]
    omega
  · simp only [List.countP_append, List.countP_nil]
    omega

/-- A reading makes news of a name at most as often as its scrapes list the name. -/
theorem detect_news (metrics : SystemMetrics) :
    (detect config state metrics).2.countP (newsOf dlqFamily name) ≤
        (scrapedQueues metrics).countP (watches config.deadLetterQueues name) ∧
      (detect config state metrics).2.countP (newsOf queueFamily name) ≤
        (scrapedQueues metrics).countP (watches config.workQueues name) := by
  have platform : ∀ start, ∀ found ∈ (platformOf metrics.platform start).2,
      ¬ dlqFamily <+: found.kind.toList ∧ ¬ queueFamily <+: found.kind.toList := by
    intro start found member
    obtain ⟨visit, _, told⟩ := mem_loop_flatten _ _ _ _ member
    exact status_outside found (platformStep_kind visit.1 visit.2 found told)
  have datastores : ∀ start, ∀ found ∈ (datastoresOf metrics.databases start).2,
      ¬ dlqFamily <+: found.kind.toList ∧ ¬ queueFamily <+: found.kind.toList := by
    intro start found member
    obtain ⟨visit, _, told⟩ := mem_loop_flatten _ _ _ _ member
    exact status_outside found (datastoreStep_kind visit.1 visit.2 found told)
  unfold detect
  dsimp only
  simp only [List.countP_append]
  rw [newsOf_none dlqFamily name _ fun found member => (platform _ found member).1,
    newsOf_none dlqFamily name _ fun found member => (datastores _ found member).1,
    newsOf_none queueFamily name _ fun found member => (platform _ found member).2,
    newsOf_none queueFamily name _ fun found member => (datastores _ found member).2]
  constructor
  · apply countP_loop_le
    intro reached item _
    exact (pipelineStep_news config metrics.timestamp item.1 name item.2 reached).1
  · apply countP_loop_le
    intro reached item _
    exact (pipelineStep_news config metrics.timestamp item.1 name item.2 reached).2

end Passes

end OperationsConsole
