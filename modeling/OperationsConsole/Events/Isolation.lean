/-
This file proves that the pipelines of the detector are isolated from one another.
An outage forgets the queues of one pipeline, and the next scrape of it announces nothing of them.
-/

import OperationsConsole.Events.PipelineMemory

namespace OperationsConsole

open Library

section Passes

variable (config : DetectorConfig) (now : Seconds) (pipelineId : String)
variable (pipeline : PipelineMetrics)

theorem servicesOf_other (services : List ServiceStatus) (state : Detector) (other : String)
    (different : pipelineId ≠ other) :
    (servicesOf pipelineId services state).1.pipelineMemory other =
      state.pipelineMemory other := by
  apply loop_frame (serviceStep pipelineId) (fun state => state.pipelineMemory other)
  intro state service _
  rw [serviceStep_pipeline, if_neg different]

theorem brokerOf_other (state : Detector) (other : String) (different : pipelineId ≠ other) :
    (brokerOf config pipelineId pipeline state).1.pipelineMemory other =
      state.pipelineMemory other := by
  rw [brokerOf_eq]
  split
  · dsimp only
    rw [loop_frame (deadLetterStep config pipelineId) (fun state => state.pipelineMemory other),
      noteAvailable_pipeline, if_neg different]
    intro state queue _
    rw [deadLetterStep_pipeline, if_neg fun both => different both.2]
  · rw [forgetDepths_pipeline, if_neg different, noteAvailable_pipeline, if_neg different]

theorem workQueuesOf_other (state : Detector) (other : String) (different : pipelineId ≠ other) :
    (workQueuesOf config pipelineId pipeline now state).1.pipelineMemory other =
      state.pipelineMemory other := by
  unfold workQueuesOf
  split
  · apply loop_frame (workQueueStep config pipelineId pipeline now)
      (fun state => state.pipelineMemory other)
    intro state queue _
    rw [workQueueStep_pipeline, if_neg fun both => different both.2]
  · rw [forgetWorkQueues_pipeline, if_neg different]

/-- The pass of a pipeline leaves the memory of every other pipeline unchanged. -/
theorem pipelineStep_other (state : Detector) (other : String) (different : pipelineId ≠ other) :
    (pipelineStep config now state (pipelineId, pipeline)).1.pipelineMemory other =
      state.pipelineMemory other := by
  unfold pipelineStep beforeWorkQueues
  dsimp only
  rw [workQueuesOf_other config now pipelineId pipeline _ other different,
    brokerOf_other config pipelineId pipeline _ other different,
    servicesOf_other pipelineId pipeline.services state other different]

variable (first second : Detector)

theorem servicesOf_determined (services : List ServiceStatus)
    (agree : first.pipelineMemory pipelineId = second.pipelineMemory pipelineId) :
    (servicesOf pipelineId services first).2 = (servicesOf pipelineId services second).2 ∧
      (servicesOf pipelineId services first).1.pipelineMemory pipelineId =
        (servicesOf pipelineId services second).1.pipelineMemory pipelineId := by
  obtain ⟨found, after⟩ := loop_determined (serviceStep pipelineId)
    (fun state => state.pipelineMemory pipelineId) services
    (fun first second service _ => serviceStep_determined pipelineId first second service)
    first second agree
  exact ⟨congrArg List.flatten found, after⟩

theorem brokerOf_determined
    (agree : first.pipelineMemory pipelineId = second.pipelineMemory pipelineId) :
    (brokerOf config pipelineId pipeline first).2 =
        (brokerOf config pipelineId pipeline second).2 ∧
      (brokerOf config pipelineId pipeline first).1.pipelineMemory pipelineId =
        (brokerOf config pipelineId pipeline second).1.pipelineMemory pipelineId := by
  have previous : first.available.get? pipelineId = second.available.get? pipelineId :=
    congrArg PipelineMemory.available agree
  have noted : (noteAvailable pipelineId pipeline.queuesAvailable first).pipelineMemory pipelineId =
      (noteAvailable pipelineId pipeline.queuesAvailable second).pipelineMemory pipelineId := by
    rw [noteAvailable_pipeline, noteAvailable_pipeline, agree]
  rw [brokerOf_eq, brokerOf_eq, previous]
  split
  · obtain ⟨found, after⟩ := loop_determined (deadLetterStep config pipelineId)
      (fun state => state.pipelineMemory pipelineId) pipeline.queues
      (fun first second queue _ => deadLetterStep_determined config pipelineId first second queue)
      _ _ noted
    exact ⟨by rw [found], after⟩
  · exact ⟨rfl, by rw [forgetDepths_pipeline, forgetDepths_pipeline, noted]⟩

theorem workQueuesOf_determined
    (agree : first.pipelineMemory pipelineId = second.pipelineMemory pipelineId) :
    (workQueuesOf config pipelineId pipeline now first).2 =
        (workQueuesOf config pipelineId pipeline now second).2 ∧
      (workQueuesOf config pipelineId pipeline now first).1.pipelineMemory pipelineId =
        (workQueuesOf config pipelineId pipeline now second).1.pipelineMemory pipelineId := by
  unfold workQueuesOf
  split
  · obtain ⟨outcomes, after⟩ := loop_determined (workQueueStep config pipelineId pipeline now)
      (fun state => state.pipelineMemory pipelineId) pipeline.queues
      (fun first second queue _ =>
        workQueueStep_determined config pipelineId pipeline now first second queue)
      first second agree
    constructor
    · dsimp only
      rw [outcomes]
    · exact after
  · exact ⟨rfl, by rw [forgetWorkQueues_pipeline, forgetWorkQueues_pipeline, agree]⟩

/-- Two detectors that remember the same of a pipeline tell the same about its reading. -/
theorem pipelineStep_determined
    (agree : first.pipelineMemory pipelineId = second.pipelineMemory pipelineId) :
    (pipelineStep config now first (pipelineId, pipeline)).2 =
        (pipelineStep config now second (pipelineId, pipeline)).2 ∧
      (pipelineStep config now first (pipelineId, pipeline)).1.pipelineMemory pipelineId =
        (pipelineStep config now second (pipelineId, pipeline)).1.pipelineMemory pipelineId := by
  obtain ⟨served, services⟩ := servicesOf_determined pipelineId first second pipeline.services agree
  obtain ⟨announced, broker⟩ := brokerOf_determined config pipelineId pipeline _ _ services
  obtain ⟨outcome, queues⟩ := workQueuesOf_determined config now pipelineId pipeline _ _ broker
  unfold pipelineStep beforeWorkQueues
  dsimp only
  rw [served, announced, outcome]
  exact ⟨rfl, queues⟩

end Passes

/-- The reading of a pipeline at its time, if a reading lists the pipeline. -/
def ownReading (pipelineId : String) (metrics : SystemMetrics) :
    Option (Seconds × PipelineMetrics) :=
  (metrics.pipelines.get? pipelineId).map fun pipeline => (metrics.timestamp, pipeline)

/-- The outcomes of the pipelines of a reading, in order. -/
def pipelineOutcomes (config : DetectorConfig) (state : Detector) (metrics : SystemMetrics) :
    List PipelineOutcome :=
  (loop (pipelineStep config metrics.timestamp) state metrics.pipelines.items).2

/-- The events of a reading that the pass of a pipeline produced follow those of the pipelines
before it. -/
def pipelineEvents (config : DetectorConfig) (state : Detector) (metrics : SystemMetrics)
    (pipelineId : String) : List Event :=
  let outcomes := pipelineOutcomes config state metrics
  let earlier := (outcomes.takeWhile fun outcome => outcome.id ≠ pipelineId).flatMap
    PipelineOutcome.found
  let own := (outcomes.find? fun outcome => outcome.id = pipelineId).elim [] PipelineOutcome.found
  ((observe config state metrics).events.drop earlier.length).take own.length

/-- An event without its number. -/
def Event.content (event : Event) : Seconds × Found := (event.timestamp, event.found)

section Reading

variable (config : DetectorConfig) (state : Detector) (metrics : SystemMetrics)
variable (pipelineId : String)

theorem observe_events_content : (observe config state metrics).events.map Event.content =
    (detect config state metrics).2.map fun found => (metrics.timestamp, found) :=
  loop_keys (recordStep config metrics.timestamp) (fun found => (metrics.timestamp, found))
    Event.content (detect config state metrics).1 (detect config state metrics).2 fun _ _ => rfl

/-- Only the passes of the pipelines change what is remembered of a pipeline. -/
theorem observe_pipelineMemory_frame :
    (observe config state metrics).state.pipelineMemory pipelineId =
      (loop (pipelineStep config metrics.timestamp) state
        metrics.pipelines.items).1.pipelineMemory pipelineId := by
  have recorded : ∀ state found,
      (recordStep config metrics.timestamp state found).1.pipelineMemory pipelineId =
        state.pipelineMemory pipelineId := fun _ _ => rfl
  unfold observe detect datastoresOf platformOf
  dsimp only
  rw [loop_frame (recordStep config metrics.timestamp)
      (fun state => state.pipelineMemory pipelineId) _ _ fun state found _ => recorded state found,
    loop_frame datastoreStep (fun state => state.pipelineMemory pipelineId),
    loop_frame platformStep (fun state => state.pipelineMemory pipelineId)]
  · intro state service _
    obtain ⟨platform, same⟩ := platformStep_state state service
    rw [same]
    rfl
  · intro state database _
    obtain ⟨datastores, same⟩ := datastoreStep_state state database
    rw [same]
    rfl

/-- Passes of other pipelines leave the memory of a pipeline unchanged. -/
theorem otherPasses_pipelineMemory (items : List (String × PipelineMetrics))
    (others : pipelineId ∉ items.map Prod.fst) :
    (loop (pipelineStep config metrics.timestamp) state items).1.pipelineMemory pipelineId =
      state.pipelineMemory pipelineId := by
  apply loop_frame (pipelineStep config metrics.timestamp)
    (fun state => state.pipelineMemory pipelineId)
  intro state item member
  apply pipelineStep_other
  intro same
  exact others (List.mem_map.mpr ⟨item, member, same⟩)

/-- The outcome of a pipeline is that of its own pass alone, and so is what is remembered of it. -/
theorem own_pass (pipeline : PipelineMetrics)
    (listed : metrics.pipelines.get? pipelineId = some pipeline) :
    let alone := pipelineStep config metrics.timestamp state (pipelineId, pipeline)
    (∃ before rest, pipelineOutcomes config state metrics = before ++ alone.2 :: rest ∧
      ∀ outcome ∈ before, outcome.id ≠ pipelineId) ∧
      (observe config state metrics).state.pipelineMemory pipelineId =
        alone.1.pipelineMemory pipelineId := by
  intro alone
  rw [Dict.get?_eq_some_iff] at listed
  obtain ⟨before, rest, items⟩ := List.append_of_mem listed
  have unique := metrics.pipelines.nodup
  rw [items, List.map_append, List.map_cons, List.nodup_append, List.nodup_cons] at unique
  have first : pipelineId ∉ before.map Prod.fst := fun member =>
    unique.2.2 pipelineId member pipelineId List.mem_cons_self rfl
  obtain ⟨outcome, memory⟩ := pipelineStep_determined config metrics.timestamp pipelineId pipeline
    _ state (otherPasses_pipelineMemory config state metrics pipelineId before first)
  have split := loop_append (pipelineStep config metrics.timestamp) state before
    ((pipelineId, pipeline) :: rest)
  rw [observe_pipelineMemory_frame, pipelineOutcomes, items, split]
  constructor
  · refine ⟨_, _, congrArg (_ ++ · :: _) outcome, ?_⟩
    intro other member
    have keys := loop_keys (pipelineStep config metrics.timestamp) Prod.fst PipelineOutcome.id state
      before (pipelineStep_id config metrics.timestamp)
    intro same
    apply first
    rw [← keys, ← same]
    exact List.mem_map_of_mem member
  · show (loop (pipelineStep config metrics.timestamp) _ rest).1.pipelineMemory pipelineId = _
    rw [otherPasses_pipelineMemory config _ metrics pipelineId rest unique.2.1.1, memory]

/-- The events of a pipeline are the transitions of its own pass, stamped with the reading. -/
theorem pipelineEvents_content (pipeline : PipelineMetrics)
    (listed : metrics.pipelines.get? pipelineId = some pipeline) :
    (pipelineEvents config state metrics pipelineId).map Event.content =
      (pipelineStep config metrics.timestamp state (pipelineId, pipeline)).2.found.map
        fun found => (metrics.timestamp, found) := by
  obtain ⟨⟨before, rest, outcomes, others⟩, _⟩ := own_pass config state metrics pipelineId pipeline
    listed
  have own := pipelineStep_id config metrics.timestamp state (pipelineId, pipeline)
  generalize pipelineStep config metrics.timestamp state (pipelineId, pipeline) = alone at *
  have earlier : (before ++ alone.2 :: rest).takeWhile (fun outcome => outcome.id ≠ pipelineId) =
      before := by
    rw [List.takeWhile_append_of_pos (by simpa using others)]
    simp [own]
  have found : (before ++ alone.2 :: rest).find? (fun outcome => outcome.id = pipelineId) =
      some alone.2 := by
    rw [List.find?_append, List.find?_eq_none.mpr (by simpa using others)]
    simp [own]
  obtain ⟨later, detected⟩ : ∃ later, (detect config state metrics).2 =
      before.flatMap PipelineOutcome.found ++ (alone.2.found ++ later) := by
    unfold detect
    dsimp only
    rw [← pipelineOutcomes, outcomes]
    simp only [List.map_append, List.map_cons, List.flatten_append, List.flatten_cons,
      List.append_assoc]
    exact ⟨_, rfl⟩
  unfold pipelineEvents
  dsimp only
  rw [outcomes, earlier, found, List.map_take, List.map_drop, observe_events_content, detected]
  simp [List.map_append]

/-- A reading without the pipeline leaves what is remembered of it unchanged. -/
theorem unlisted_pass (unlisted : metrics.pipelines.get? pipelineId = none) :
    (observe config state metrics).state.pipelineMemory pipelineId =
      state.pipelineMemory pipelineId := by
  rw [observe_pipelineMemory_frame]
  apply otherPasses_pipelineMemory
  exact (Dict.get?_eq_none_iff _ _).mp unlisted

/-- The observed reading shows a pipeline as its own pass leaves it. -/
theorem observed_pipeline : (observe config state metrics).metrics.pipelines.get? pipelineId =
    (metrics.pipelines.get? pipelineId).map fun pipeline =>
      (pipelineStep config metrics.timestamp state (pipelineId, pipeline)).2.pipeline := by
  show (observedPipelines config state metrics).get? pipelineId = _
  cases listed : metrics.pipelines.get? pipelineId with
  | none =>
      have keys := loop_keys (pipelineStep config metrics.timestamp) Prod.fst PipelineOutcome.id state
        metrics.pipelines.items (pipelineStep_id config metrics.timestamp)
      rw [Dict.get?_eq_none_iff] at listed
      rw [Option.map_none, Dict.get?_eq_none_iff, observedPipelines, List.map_map]
      show pipelineId ∉ List.map PipelineOutcome.id _
      rw [keys]
      exact listed
  | some pipeline =>
      obtain ⟨⟨before, rest, outcomes, _⟩, _⟩ := own_pass config state metrics pipelineId pipeline
        listed
      have own := pipelineStep_id config metrics.timestamp state (pipelineId, pipeline)
      rw [Option.map_some, Dict.get?_eq_some_iff, observedPipelines]
      show _ ∈ (pipelineOutcomes config state metrics).map _
      rw [outcomes]
      simp [own]

end Reading

/-- What a reading tells of a pipeline: its events without their numbers, and its metrics with the
conditions of its queues. -/
structure PipelineReport where
  events : List (Seconds × Found)
  pipeline : PipelineMetrics

def pipelineReport (config : DetectorConfig) (state : Detector) (metrics : SystemMetrics)
    (pipelineId : String) : Option PipelineReport :=
  ((observe config state metrics).metrics.pipelines.get? pipelineId).map fun pipeline =>
    ⟨(pipelineEvents config state metrics pipelineId).map Event.content, pipeline⟩

/-- A run of the detector from a state, the newest reading first. -/
def detectorFrom (config : DetectorConfig) (state : Detector) (history : List SystemMetrics) :
    Detector :=
  after (fun state metrics => (observe config state metrics).state) state history

/-- The reports of a pipeline over a run, the newest first. -/
def pipelineReports (config : DetectorConfig) (pipelineId : String) (state : Detector) :
    List SystemMetrics → List PipelineReport
  | [] => []
  | metrics :: earlier =>
      (pipelineReport config (detectorFrom config state earlier) metrics pipelineId).toList ++
        pipelineReports config pipelineId state earlier

/-- A pipeline that is read alone reports the outcome of its pass. -/
def soloReport (config : DetectorConfig) (pipelineId : String) (state : Detector)
    (reading : Seconds × PipelineMetrics) : PipelineReport :=
  let outcome := (pipelineStep config reading.1 state (pipelineId, reading.2)).2
  ⟨outcome.found.map fun found => (reading.1, found), outcome.pipeline⟩

def soloFrom (config : DetectorConfig) (pipelineId : String) (state : Detector)
    (readings : List (Seconds × PipelineMetrics)) : Detector :=
  after (fun state reading => (pipelineStep config reading.1 state (pipelineId, reading.2)).1) state
    readings

def soloReports (config : DetectorConfig) (pipelineId : String) (state : Detector) :
    List (Seconds × PipelineMetrics) → List PipelineReport
  | [] => []
  | reading :: earlier =>
      soloReport config pipelineId (soloFrom config pipelineId state earlier) reading ::
        soloReports config pipelineId state earlier

section Runs

variable (config : DetectorConfig) (pipelineId : String)

theorem pipelineReport_eq (state : Detector) (metrics : SystemMetrics) :
    pipelineReport config state metrics pipelineId =
      (ownReading pipelineId metrics).map (soloReport config pipelineId state) := by
  unfold pipelineReport ownReading
  rw [observed_pipeline]
  cases listed : metrics.pipelines.get? pipelineId with
  | none => rfl
  | some pipeline =>
      simp only [Option.map_some]
      rw [pipelineEvents_content config state metrics pipelineId pipeline listed]
      rfl

/-- Detectors that remember the same of a pipeline report the same of it. -/
theorem solo_determined (readings : List (Seconds × PipelineMetrics)) (first second : Detector)
    (agree : first.pipelineMemory pipelineId = second.pipelineMemory pipelineId) :
    soloReports config pipelineId first readings = soloReports config pipelineId second readings ∧
      (soloFrom config pipelineId first readings).pipelineMemory pipelineId =
        (soloFrom config pipelineId second readings).pipelineMemory pipelineId := by
  induction readings with
  | nil => exact ⟨rfl, agree⟩
  | cons reading earlier ih =>
      obtain ⟨outcome, memory⟩ := pipelineStep_determined config reading.1 pipelineId reading.2 _ _
        ih.2
      constructor
      · unfold soloReports soloReport
        rw [outcome, ih.1]
      · exact memory

/-- Over a run a pipeline is reported as if its own readings were the whole run. -/
theorem run_solo (state : Detector) (history : List SystemMetrics) :
    pipelineReports config pipelineId state history =
        soloReports config pipelineId state (history.filterMap (ownReading pipelineId)) ∧
      (detectorFrom config state history).pipelineMemory pipelineId =
        (soloFrom config pipelineId state
          (history.filterMap (ownReading pipelineId))).pipelineMemory pipelineId := by
  induction history with
  | nil => exact ⟨rfl, rfl⟩
  | cons metrics earlier ih =>
      have after : detectorFrom config state (metrics :: earlier) =
          (observe config (detectorFrom config state earlier) metrics).state := rfl
      rw [after, pipelineReports, pipelineReport_eq, ih.1]
      cases listed : metrics.pipelines.get? pipelineId with
      | none =>
          have own : ownReading pipelineId metrics = none := by
            rw [ownReading, listed, Option.map_none]
          rw [unlisted_pass config _ metrics pipelineId listed, List.filterMap_cons_none own, own]
          exact ⟨rfl, ih.2⟩
      | some pipeline =>
          have own : ownReading pipelineId metrics = some (metrics.timestamp, pipeline) := by
            rw [ownReading, listed, Option.map_some]
          obtain ⟨outcome, memory⟩ := pipelineStep_determined config metrics.timestamp pipelineId
            pipeline _ _ ih.2
          rw [(own_pass config _ metrics pipelineId pipeline listed).2,
            List.filterMap_cons_some own, own]
          constructor
          · simp only [Option.map_some, Option.toList_some, List.singleton_append, soloReports,
              soloReport, outcome]
          · exact memory

end Runs

end OperationsConsole
