/-
This file projects the detector onto the memory of one pipeline.
Every pass of a reading sees and changes only the memory of its own pipeline.
-/

import Mathlib.Logic.Function.Basic
import OperationsConsole.Events.MarkerWait

namespace OperationsConsole

open Library

/-- The detector remembers these facts of one pipeline, each under the name of its subject. -/
@[ext] structure PipelineMemory where
  services : String → Option Bool
  available : Option Bool
  dlqDepth : String → Option ℤ
  queues : String → QueueMemory

def Detector.pipelineMemory (state : Detector) (pipelineId : String) : PipelineMemory where
  services name := state.services.get? (pipelineId, name)
  available := state.available.get? pipelineId
  dlqDepth name := state.dlqDepth.get? (pipelineId, name)
  queues name := state.memory (pipelineId, name)

/-- An assignment for a subject of a pipeline changes that subject of that pipeline only. -/
theorem get?_set_subject {ν : Type} (dict : Dict (String × String) ν) (pipelineId name other : String)
    (value : ν) : (fun subject => (dict.set (pipelineId, name) value).get? (other, subject)) =
      if pipelineId = other then
        Function.update (fun subject => dict.get? (other, subject)) name (some value)
      else fun subject => dict.get? (other, subject) := by
  funext subject
  rw [Dict.get?_set]
  by_cases same : pipelineId = other
  · simp only [same, Prod.mk.injEq, true_and, if_true, Function.update_apply]
  · simp only [Prod.mk.injEq, Ne.symm same, false_and, if_false, same]

/-- The broker remembers whether the queues of its pipeline are available. -/
def noteAvailable (pipelineId : String) (available : Bool) (state : Detector) : Detector :=
  { state with available := state.available.set pipelineId available }

/-- A failed scrape forgets every dead letter queue of the pipeline. -/
def forgetDepths (pipelineId : String) (state : Detector) : Detector :=
  { state with dlqDepth := state.dlqDepth.filter fun key _ => key.1 ≠ pipelineId }

/-- The broker notes the availability before it reads or forgets the dead letter queues. -/
theorem brokerOf_eq (config : DetectorConfig) (pipelineId : String) (pipeline : PipelineMetrics)
    (state : Detector) :
    brokerOf config pipelineId pipeline state =
      if pipeline.queuesAvailable then
        ((loop (deadLetterStep config pipelineId)
            (noteAvailable pipelineId pipeline.queuesAvailable state) pipeline.queues).1,
          availabilityFound pipelineId (state.available.get? pipelineId) pipeline.queuesAvailable ++
            (loop (deadLetterStep config pipelineId)
              (noteAvailable pipelineId pipeline.queuesAvailable state) pipeline.queues).2.flatten)
      else (forgetDepths pipelineId (noteAvailable pipelineId pipeline.queuesAvailable state),
        availabilityFound pipelineId (state.available.get? pipelineId)
          pipeline.queuesAvailable) := rfl

/-- The news of a depth that was remembered before, if any. -/
def depthFound (before : Option ℤ) (queue : QueueInfo) : List Found :=
  match before with
  | none => []
  | some before =>
      if before = queue.messages then []
      else if before < queue.messages then
        [⟨.error, "dlq-grew", queue.name, queue.name ++ " grew by " ++
          plural (queue.messages - before) ++ " to " ++ toString queue.messages⟩]
      else if queue.messages = 0 then
        [⟨.info, "dlq-emptied", queue.name, queue.name ++ " emptied"⟩]
      else []

section Steps

variable (config : DetectorConfig) (pipelineId : String) (pipeline : PipelineMetrics)
variable (now : Seconds) (state : Detector) (other : String)

theorem serviceStep_pipeline (service : ServiceStatus) :
    (serviceStep pipelineId state service).1.pipelineMemory other =
      if pipelineId = other then { state.pipelineMemory other with
        services := Function.update (state.pipelineMemory other).services service.name
          (some (!isServiceDown service.status)) }
      else state.pipelineMemory other := by
  have next : (serviceStep pipelineId state service).1 = { state with
      services := state.services.set (pipelineId, service.name)
        (!isServiceDown service.status) } := by
    unfold serviceStep
    dsimp only
    split
    · split <;> rfl
    · rfl
  have subjects := get?_set_subject state.services pipelineId service.name other
    (!isServiceDown service.status)
  rw [next, Detector.pipelineMemory, subjects]
  split <;> rfl

theorem deadLetterStep_pipeline (queue : QueueInfo) :
    (deadLetterStep config pipelineId state queue).1.pipelineMemory other =
      if queue.name ∈ config.deadLetterQueues ∧ pipelineId = other then
        { state.pipelineMemory other with
          dlqDepth := Function.update (state.pipelineMemory other).dlqDepth queue.name
            (some queue.messages) }
      else state.pipelineMemory other := by
  by_cases listed : queue.name ∈ config.deadLetterQueues
  · have next : (deadLetterStep config pipelineId state queue).1 = { state with
        dlqDepth := state.dlqDepth.set (pipelineId, queue.name) queue.messages } := by
      unfold deadLetterStep
      rw [if_neg (not_not.mpr listed)]
      dsimp only
      split
      · rfl
      · split
        · rfl
        · split
          · rfl
          · split <;> rfl
    have subjects := get?_set_subject state.dlqDepth pipelineId queue.name other queue.messages
    rw [next, Detector.pipelineMemory, subjects]
    simp only [listed, true_and]
    split <;> rfl
  · rw [deadLetterStep, if_pos listed, if_neg fun both => listed both.1]

/-- One entry of a work queue changes the memory of that queue, as its own machine does. -/
theorem workQueueStep_pipeline (queue : QueueInfo) :
    (workQueueStep config pipelineId pipeline now state queue).1.pipelineMemory other =
      if queue.name ∈ config.workQueues ∧ pipelineId = other then
        { state.pipelineMemory other with
          queues := Function.update (state.pipelineMemory other).queues queue.name
            (((state.pipelineMemory other).queues queue.name).see config.awaitingMarkerSeconds now
              (listedAsAwaiting config pipeline queue) queue) }
      else state.pipelineMemory other := by
  by_cases work : queue.name ∈ config.workQueues
  · obtain ⟨seen, zero, waiting, conditions, next⟩ :=
      workQueueStep_state config pipelineId pipeline now state queue
    have rest : (workQueueStep config pipelineId pipeline now state queue).1.pipelineMemory other =
        { state.pipelineMemory other with queues := fun name =>
            (workQueueStep config pipelineId pipeline now state queue).1.memory (other, name) } := by
      rw [next]
      rfl
    have queues : (fun name => (workQueueStep config pipelineId pipeline now state queue).1.memory
        (other, name)) = if pipelineId = other then
          Function.update (fun name => state.memory (other, name)) queue.name
            ((state.memory (other, queue.name)).see config.awaitingMarkerSeconds now
              (listedAsAwaiting config pipeline queue) queue)
        else fun name => state.memory (other, name) := by
      funext name
      by_cases same : name = queue.name
      · subst same
        rw [workQueueStep_memory config pipelineId pipeline now state queue _ work]
        by_cases own : pipelineId = other <;> simp [own]
      · have apart : (other, name) ≠ (pipelineId, queue.name) := fun equal =>
          same (congrArg Prod.snd equal)
        rw [workQueueStep_memory_other config pipelineId pipeline now state queue _ apart]
        split
        · rw [Function.update_of_ne same]
        · rfl
    rw [rest, queues]
    simp only [work, true_and]
    split <;> rfl
  · rw [workQueueStep_of_other _ _ _ _ _ _ work, if_neg fun both => work both.1]

/-- Two detectors that remember the same of a pipeline tell the same about its services. -/
theorem serviceStep_determined (first second : Detector) (service : ServiceStatus)
    (agree : first.pipelineMemory pipelineId = second.pipelineMemory pipelineId) :
    (serviceStep pipelineId first service).2 = (serviceStep pipelineId second service).2 ∧
      (serviceStep pipelineId first service).1.pipelineMemory pipelineId =
        (serviceStep pipelineId second service).1.pipelineMemory pipelineId := by
  constructor
  · have same : first.services.get? (pipelineId, service.name) =
        second.services.get? (pipelineId, service.name) :=
      congrFun (congrArg PipelineMemory.services agree) service.name
    unfold serviceStep
    dsimp only
    rw [same]
    split
    · split <;> rfl
    · rfl
  · rw [serviceStep_pipeline, serviceStep_pipeline, agree]

/-- A dead letter queue announces the change of its depth. -/
theorem deadLetterStep_found (queue : QueueInfo) :
    (deadLetterStep config pipelineId state queue).2 =
      if queue.name ∈ config.deadLetterQueues then
        depthFound ((state.pipelineMemory pipelineId).dlqDepth queue.name) queue
      else [] := by
  show _ = if _ then depthFound (state.dlqDepth.get? (pipelineId, queue.name)) queue else []
  by_cases listed : queue.name ∈ config.deadLetterQueues
  · rw [if_pos listed, deadLetterStep, if_neg (not_not.mpr listed)]
    unfold depthFound
    dsimp only
    cases state.dlqDepth.get? (pipelineId, queue.name) with
    | none => rfl
    | some before =>
        dsimp only
        split
        · rfl
        · split
          · rfl
          · split <;> rfl
  · rw [if_neg listed, deadLetterStep, if_pos listed]

theorem deadLetterStep_determined (first second : Detector) (queue : QueueInfo)
    (agree : first.pipelineMemory pipelineId = second.pipelineMemory pipelineId) :
    (deadLetterStep config pipelineId first queue).2 =
        (deadLetterStep config pipelineId second queue).2 ∧
      (deadLetterStep config pipelineId first queue).1.pipelineMemory pipelineId =
        (deadLetterStep config pipelineId second queue).1.pipelineMemory pipelineId := by
  constructor
  · rw [deadLetterStep_found, deadLetterStep_found, agree]
  · rw [deadLetterStep_pipeline, deadLetterStep_pipeline, agree]

theorem workQueueStep_determined (first second : Detector) (queue : QueueInfo)
    (agree : first.pipelineMemory pipelineId = second.pipelineMemory pipelineId) :
    (workQueueStep config pipelineId pipeline now first queue).2 =
        (workQueueStep config pipelineId pipeline now second queue).2 ∧
      (workQueueStep config pipelineId pipeline now first queue).1.pipelineMemory pipelineId =
        (workQueueStep config pipelineId pipeline now second queue).1.pipelineMemory pipelineId := by
  constructor
  · have same : first.memory (pipelineId, queue.name) = second.memory (pipelineId, queue.name) :=
      congrFun (congrArg PipelineMemory.queues agree) queue.name
    by_cases work : queue.name ∈ config.workQueues
    · rw [workQueueStep_outcome _ _ _ _ _ _ work, workQueueStep_outcome _ _ _ _ _ _ work, same]
    · rw [workQueueStep_of_other _ _ _ _ _ _ work, workQueueStep_of_other _ _ _ _ _ _ work]
  · rw [workQueueStep_pipeline, workQueueStep_pipeline, agree]

theorem noteAvailable_pipeline (available : Bool) :
    (noteAvailable pipelineId available state).pipelineMemory other =
      if pipelineId = other then { state.pipelineMemory other with available := some available }
      else state.pipelineMemory other := by
  unfold Detector.pipelineMemory noteAvailable
  dsimp only
  rw [Dict.get?_set]
  by_cases same : pipelineId = other
  · rw [if_pos same, if_pos same.symm]
    rfl
  · rw [if_neg same, if_neg (Ne.symm same)]
    rfl

theorem forgetDepths_pipeline :
    (forgetDepths pipelineId state).pipelineMemory other =
      if pipelineId = other then { state.pipelineMemory other with dlqDepth := fun _ => none }
      else state.pipelineMemory other := by
  unfold Detector.pipelineMemory forgetDepths
  simp only [Dict.get?_filter]
  by_cases same : pipelineId = other
  · simp [same, Detector.memory]
  · have kept (value : Option ℤ) : value.filter (fun _ => true) = value := by
      cases value <;> rfl
    simp [same, Ne.symm same, Detector.memory, kept]

theorem forgetWorkQueues_pipeline :
    (forgetWorkQueues pipelineId state).pipelineMemory other =
      if pipelineId = other then { state.pipelineMemory other with queues := fun _ => {} }
      else state.pipelineMemory other := by
  unfold Detector.pipelineMemory
  simp only [forgetWorkQueues_memory]
  by_cases same : pipelineId = other
  · simp only [same, if_true, forgetWorkQueues]
  · simp only [same, if_false, forgetWorkQueues]

end Steps

end OperationsConsole
