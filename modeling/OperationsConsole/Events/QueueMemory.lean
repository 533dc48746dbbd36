/-
This file projects the detector onto the memory of one work queue.
The projection is a small machine that reads only the entries of that queue.
-/

import OperationsConsole.Events.Detector
import OperationsConsole.Library.Stopwatch

namespace OperationsConsole

open Library

/-- The memory of one work queue holds its zero-ack watch, its kind, and its marker wait. -/
structure QueueMemory where
  watch : Stopwatch Seconds := {}
  condition : Option (Option ConditionKind) := none
  awaitingSince : Option Seconds := none
  deriving DecidableEq

def Detector.memory (state : Detector) (key : QueueKey) : QueueMemory :=
  ⟨⟨state.zeroSince.get? key, state.seenAt.get? key⟩, state.conditions.get? key,
    state.awaitingSince.get? key⟩

namespace QueueMemory

/-- The watch after one entry of the queue. -/
def watchAt (now : Seconds) (memory : QueueMemory) (queue : QueueInfo) : Stopwatch Seconds :=
  memory.watch.feed gapSeconds (.read now queue.zeroAck)

/-- The start of the marker wait after one entry of the queue. -/
def waitingAt (now : Seconds) (listed : Bool) (memory : QueueMemory) : Option Seconds :=
  if listed then some (memory.awaitingSince.getD now) else none

/-- The condition that one entry sets. -/
def conditionAt (bound now : Seconds) (listed : Bool) (memory : QueueMemory) (queue : QueueInfo) :
    Option QueueCondition :=
  conditionOf queue (((memory.watchAt now queue).since.map fun since => now - since).getD 0)
    ((memory.waitingAt now listed).map fun since => now - since) bound

/-- The memory after one entry of the queue. -/
def see (bound now : Seconds) (listed : Bool) (memory : QueueMemory) (queue : QueueInfo) :
    QueueMemory where
  watch := memory.watchAt now queue
  condition := some (rememberedKind (memory.conditionAt bound now listed queue))
  awaitingSince := memory.waitingAt now listed

end QueueMemory

/-- One entry of a queue leaves the memory of every other queue unchanged. -/
theorem workQueueStep_memory_other (config : DetectorConfig) (pipelineId : String)
    (pipeline : PipelineMetrics) (now : Seconds) (state : Detector) (queue : QueueInfo)
    (key : QueueKey) (other : key ≠ (pipelineId, queue.name)) :
    (workQueueStep config pipelineId pipeline now state queue).1.memory key =
      state.memory key := by
  unfold workQueueStep
  split
  · rfl
  · simp only [Detector.memory, awaitingMarkerFor, Dict.get?_set, other, if_false]
    cases listedAsAwaiting config pipeline queue <;> cases queue.zeroAck <;>
      by_cases late : ((state.seenAt.get? (pipelineId, queue.name)).any
        fun last => decide (gapSeconds < now - last)) = true <;>
      simp [late, other]

/-- One entry of a work queue changes only that queue's memory, as its own machine does. -/
theorem workQueueStep_memory (config : DetectorConfig) (pipelineId : String)
    (pipeline : PipelineMetrics) (now : Seconds) (state : Detector) (queue : QueueInfo)
    (key : QueueKey) (work : key.2 ∈ config.workQueues) :
    (workQueueStep config pipelineId pipeline now state queue).1.memory key =
      if (pipelineId, queue.name) = key then
        (state.memory key).see config.awaitingMarkerSeconds now
          (listedAsAwaiting config pipeline queue) queue
      else state.memory key := by
  split
  · rename_i same
    subst same
    simp only [workQueueStep, work, not_true_eq_false, if_false, Detector.memory, QueueMemory.see,
      QueueMemory.conditionAt, QueueMemory.watchAt, QueueMemory.waitingAt, Stopwatch.feed,
      awaitingMarkerFor, Dict.get?_set, if_true]
    cases listedAsAwaiting config pipeline queue <;> cases queue.zeroAck <;>
      by_cases late : ((state.seenAt.get? (pipelineId, queue.name)).any
        fun last => decide (gapSeconds < now - last)) = true <;>
      simp [late]
  · rename_i different
    exact workQueueStep_memory_other config pipelineId pipeline now state queue key
      fun equal => different equal.symm

/-- One entry of a work queue shows the condition of its own machine. -/
theorem workQueueStep_outcome (config : DetectorConfig) (pipelineId : String)
    (pipeline : PipelineMetrics) (now : Seconds) (state : Detector) (queue : QueueInfo)
    (work : queue.name ∈ config.workQueues) :
    let memory := state.memory (pipelineId, queue.name)
    let condition := memory.conditionAt config.awaitingMarkerSeconds now
      (listedAsAwaiting config pipeline queue) queue
    (workQueueStep config pipelineId pipeline now state queue).2 =
      ⟨{ queue with condition := condition }, announcement memory.condition condition queue⟩ := by
  simp only [workQueueStep, work, not_true_eq_false, if_false, Detector.memory,
    QueueMemory.conditionAt, QueueMemory.watchAt, QueueMemory.waitingAt, Stopwatch.feed,
    awaitingMarkerFor]
  cases listedAsAwaiting config pipeline queue <;> cases queue.zeroAck <;>
    by_cases late : ((state.seenAt.get? (pipelineId, queue.name)).any
      fun last => decide (gapSeconds < now - last)) = true <;>
    simp [late]

/-- The entries of one queue in the reading of a pipeline. -/
def PipelineMetrics.entries (pipeline : PipelineMetrics) (name : String) : List QueueInfo :=
  pipeline.queues.filter fun queue => queue.name = name

namespace QueueMemory

/-- The memory after some entries of the queue in one reading. -/
def seeAll (config : DetectorConfig) (pipeline : PipelineMetrics) (now : Seconds)
    (memory : QueueMemory) (entries : List QueueInfo) : QueueMemory :=
  entries.foldl (fun memory queue => memory.see config.awaitingMarkerSeconds now
    (listedAsAwaiting config pipeline queue) queue) memory

/-- A failed scrape clears the memory, and a successful one shows every entry of the queue. -/
def scrape (config : DetectorConfig) (now : Seconds) (name : String) (memory : QueueMemory)
    (pipeline : PipelineMetrics) : QueueMemory :=
  if pipeline.queuesAvailable then memory.seeAll config pipeline now (pipeline.entries name) else {}

/-- A reading without the pipeline leaves the memory unchanged. -/
def read (config : DetectorConfig) (key : QueueKey) (memory : QueueMemory)
    (metrics : SystemMetrics) : QueueMemory :=
  match metrics.pipelines.get? key.1 with
  | none => memory
  | some pipeline => memory.scrape config metrics.timestamp key.2 pipeline

end QueueMemory

theorem serviceStep_memory (pipelineId : String) (state : Detector) (service : ServiceStatus)
    (key : QueueKey) : (serviceStep pipelineId state service).1.memory key = state.memory key := by
  obtain ⟨services, same⟩ := serviceStep_state pipelineId state service
  rw [same]
  rfl

theorem platformStep_memory (state : Detector) (service : PlatformService) (key : QueueKey) :
    (platformStep state service).1.memory key = state.memory key := by
  obtain ⟨platform, same⟩ := platformStep_state state service
  rw [same]
  rfl

theorem datastoreStep_memory (state : Detector) (database : DatabaseInfo) (key : QueueKey) :
    (datastoreStep state database).1.memory key = state.memory key := by
  obtain ⟨datastores, same⟩ := datastoreStep_state state database
  rw [same]
  rfl

theorem deadLetterStep_memory (config : DetectorConfig) (pipelineId : String) (state : Detector)
    (queue : QueueInfo) (key : QueueKey) :
    (deadLetterStep config pipelineId state queue).1.memory key = state.memory key := by
  obtain ⟨depth, same⟩ := deadLetterStep_state config pipelineId state queue
  rw [same]
  rfl

theorem brokerOf_memory (config : DetectorConfig) (pipelineId : String)
    (pipeline : PipelineMetrics) (state : Detector) (key : QueueKey) :
    (brokerOf config pipelineId pipeline state).1.memory key = state.memory key := by
  unfold brokerOf
  dsimp only
  split
  · exact loop_frame _ (fun state => state.memory key) _ _ fun state queue _ =>
      deadLetterStep_memory config pipelineId state queue key
  · rfl

/-- The services and the broker of a pipeline leave the memory of every work queue unchanged. -/
theorem beforeWorkQueues_memory (config : DetectorConfig) (state : Detector)
    (item : String × PipelineMetrics) (key : QueueKey) :
    (beforeWorkQueues config state item).1.memory key = state.memory key := by
  unfold beforeWorkQueues
  dsimp only
  rw [brokerOf_memory]
  exact loop_frame _ (fun state => state.memory key) _ _ fun state service _ =>
    serviceStep_memory item.1 state service key

/-- The loop over a pipeline's queues shows a queue its own entries in order. -/
theorem workQueueLoop_memory (config : DetectorConfig) (pipelineId : String)
    (pipeline : PipelineMetrics) (now : Seconds) (state : Detector) (queues : List QueueInfo)
    (key : QueueKey) (work : key.2 ∈ config.workQueues) :
    (loop (workQueueStep config pipelineId pipeline now) state queues).1.memory key =
      if pipelineId = key.1 then
        (state.memory key).seeAll config pipeline now
          (queues.filter fun queue => queue.name = key.2)
      else state.memory key := by
  have view := loop_view (workQueueStep config pipelineId pipeline now)
    (fun state => state.memory key)
    (fun memory queue => if (pipelineId, queue.name) = key then
      memory.see config.awaitingMarkerSeconds now (listedAsAwaiting config pipeline queue) queue
      else memory) queues state
    fun state queue _ => workQueueStep_memory config pipelineId pipeline now state queue key work
  rw [view]
  clear view
  generalize state.memory key = memory
  by_cases same : pipelineId = key.1
  · rw [if_pos same]
    induction queues generalizing memory with
    | nil => rfl
    | cons queue rest ih =>
        rw [List.foldl_cons, ih, List.filter_cons]
        by_cases named : queue.name = key.2
        · have equal : (pipelineId, queue.name) = key := Prod.ext same named
          rw [if_pos equal, if_pos (decide_eq_true named)]
          rfl
        · have different : (pipelineId, queue.name) ≠ key := fun equal =>
            named (congrArg Prod.snd equal)
          simp [different, named]
  · rw [if_neg same]
    induction queues generalizing memory with
    | nil => rfl
    | cons queue rest ih =>
        have different : (pipelineId, queue.name) ≠ key := fun equal =>
          same (congrArg Prod.fst equal)
        rw [List.foldl_cons, if_neg different, ih]

theorem forgetWorkQueues_memory (pipelineId : String) (state : Detector) (key : QueueKey) :
    (forgetWorkQueues pipelineId state).memory key =
      if pipelineId = key.1 then {} else state.memory key := by
  split
  · rename_i same
    simp [forgetWorkQueues, Detector.memory, Dict.get?_filter, same]
  · rename_i different
    have other : key.1 ≠ pipelineId := fun equal => different equal.symm
    have kept (value : Option Seconds) : value.filter (fun _ => true) = value := by
      cases value <;> rfl
    simp only [forgetWorkQueues, Detector.memory, Dict.get?_filter, ne_eq, other,
      not_false_eq_true, decide_true, kept]
    cases state.conditions.get? key <;> rfl

/-- A pipeline changes the memory of its own work queues only. -/
theorem pipelineStep_memory (config : DetectorConfig) (now : Seconds) (state : Detector)
    (item : String × PipelineMetrics) (key : QueueKey) (work : key.2 ∈ config.workQueues) :
    (pipelineStep config now state item).1.memory key =
      if item.1 = key.1 then (state.memory key).scrape config now key.2 item.2
      else state.memory key := by
  unfold pipelineStep workQueuesOf
  dsimp only
  split
  · rename_i available
    rw [workQueueLoop_memory _ _ _ _ _ _ _ work, beforeWorkQueues_memory]
    simp only [QueueMemory.scrape, available, if_true, PipelineMetrics.entries]
  · rename_i unavailable
    rw [forgetWorkQueues_memory, beforeWorkQueues_memory]
    simp only [QueueMemory.scrape, unavailable, Bool.false_eq_true, if_false]

/-- Recording the events leaves the memory of every work queue unchanged. -/
theorem recordStep_memory (config : DetectorConfig) (stamp : Seconds) (state : Detector)
    (found : Found) (key : QueueKey) :
    (recordStep config stamp state found).1.memory key = state.memory key := rfl

/-- The detector's reading refines the reading of the one-queue machine. -/
theorem observe_memory (config : DetectorConfig) (state : Detector) (metrics : SystemMetrics)
    (key : QueueKey) (work : key.2 ∈ config.workQueues) :
    (observe config state metrics).state.memory key =
      (state.memory key).read config key metrics := by
  unfold observe
  dsimp only
  rw [loop_frame _ (fun state => state.memory key) _ _ fun state found _ =>
    recordStep_memory config metrics.timestamp state found key]
  unfold detect datastoresOf platformOf
  dsimp only
  rw [loop_frame _ (fun state => state.memory key) _ _ fun state database _ =>
    datastoreStep_memory state database key]
  rw [loop_frame _ (fun state => state.memory key) _ _ fun state service _ =>
    platformStep_memory state service key]
  rw [loop_view _ (fun state => state.memory key)
    (fun memory item => if item.1 = key.1 then
      QueueMemory.scrape config metrics.timestamp key.2 memory item.2 else memory) _ _
    fun state item _ => pipelineStep_memory config metrics.timestamp state item key work]
  rw [Dict.foldl_at_key metrics.pipelines key.1 fun memory pipeline =>
    QueueMemory.scrape config metrics.timestamp key.2 memory pipeline]
  unfold QueueMemory.read
  cases metrics.pipelines.get? key.1 <;> rfl

/-- A run of the detector refines the run of the one-queue machine. -/
theorem detectorAfter_memory (config : DetectorConfig) (history : List SystemMetrics)
    (key : QueueKey) (work : key.2 ∈ config.workQueues) :
    (detectorAfter config history).memory key =
      after (fun memory metrics => memory.read config key metrics) {} history := by
  induction history with
  | nil => rfl
  | cons metrics earlier ih =>
      rw [after_cons, ← ih]
      exact observe_memory config (detectorAfter config earlier) metrics key work

end OperationsConsole
