/-
This file decides when every marker wait of a work queue gets a fresh bound.
The detector keeps the start of a wait over readings that do not contain the queue.
-/

import OperationsConsole.Events.Isolation
import OperationsConsole.Events.MarkerWait
import OperationsConsole.Library.Stretch

namespace OperationsConsole

open Library

section Waits

variable (config : DetectorConfig)

/-- An entry waits for its marker when it has a backlog and no consumer, and its owning service
answered and lists its type. -/
def WaitsForMarker (pipeline : PipelineMetrics) (queue : QueueInfo) : Prop :=
  0 < queue.messages ∧ queue.consumers = 0 ∧
    ∃ owner, config.queueOwners.get? queue.name = some owner ∧
      ∃ service, pipeline.services.find? (fun service => service.name = owner.1) = some service ∧
        ∃ awaiting, service.awaitingExtractionComplete = some awaiting ∧ owner.2 ∈ awaiting

theorem listedAsAwaiting_iff (pipeline : PipelineMetrics) (queue : QueueInfo) :
    listedAsAwaiting config pipeline queue = true ↔ WaitsForMarker config pipeline queue := by
  unfold listedAsAwaiting WaitsForMarker
  cases config.queueOwners.get? queue.name with
  | none => simp
  | some owner =>
      by_cases stuck : 0 < queue.messages ∧ queue.consumers = 0
      · cases answered : pipeline.services.find? fun service => service.name = owner.1 with
        | none => simp [stuck, answered]
        | some service =>
            cases listed : service.awaitingExtractionComplete with
            | none => simp [stuck, answered, listed]
            | some awaiting => simp [stuck, answered, listed]
      · rw [← and_assoc]
        simp [stuck]

/-- One entry samples whether it waits for its marker. -/
def waitSample (pipeline : PipelineMetrics) (now : Seconds) (queue : QueueInfo) : Sample Seconds :=
  .read now (listedAsAwaiting config pipeline queue)

/-- The samples of some entries, the newest first. -/
def waitSamples (pipeline : PipelineMetrics) (now : Seconds) (entries : List QueueInfo) :
    List (Sample Seconds) :=
  (entries.map (waitSample config pipeline now)).reverse

/-- A reading samples every entry of the queue, and a failed scrape loses the signal. -/
def readingWaits (key : QueueKey) (metrics : SystemMetrics) : List (Sample Seconds) :=
  match metrics.pipelines.get? key.1 with
  | none => []
  | some pipeline =>
      if pipeline.queuesAvailable then
        waitSamples config pipeline metrics.timestamp (pipeline.entries key.2)
      else [.lost]

theorem seeAll_awaiting (pipeline : PipelineMetrics) (now : Seconds) (memory : QueueMemory)
    (entries : List QueueInfo) :
    (memory.seeAll config pipeline now entries).awaitingSince =
      after startTimer memory.awaitingSince (waitSamples config pipeline now entries) := by
  rw [waitSamples, after_reverse, List.foldl_map]
  induction entries generalizing memory with
  | nil => rfl
  | cons queue rest ih => exact ih _

/-- The remembered start is the one of a timer that is fed the samples of the history. -/
theorem detectorAfter_awaiting (history : List SystemMetrics) (key : QueueKey)
    (work : key.2 ∈ config.workQueues) :
    ((detectorAfter config history).memory key).awaitingSince =
      after startTimer none (history.map (readingWaits config key)).flatten := by
  rw [detectorAfter_memory config history key work]
  induction history with
  | nil => rfl
  | cons metrics earlier ih =>
      rw [after_cons, List.map_cons, List.flatten_cons, after_append, ← ih]
      unfold QueueMemory.read readingWaits
      cases metrics.pipelines.get? key.1 with
      | none => rfl
      | some pipeline =>
          simp only [QueueMemory.scrape]
          split
          · exact seeAll_awaiting config pipeline metrics.timestamp _ _
          · rfl

end Waits

section Entry

variable (config : DetectorConfig) (earlier : List SystemMetrics) (metrics : SystemMetrics)
  (pipelineId : String) (pipeline : PipelineMetrics) (before : List QueueInfo) (queue : QueueInfo)

/-- The samples of an entry and of the entries of its queue before it in the same reading. -/
def entryWaits : List (Sample Seconds) :=
  waitSample config pipeline metrics.timestamp queue ::
    waitSamples config pipeline metrics.timestamp
      (before.filter fun other => other.name = queue.name)

/-- The start of the wait that the detector keeps. It skips the readings without the queue. -/
def keptStart : Option Seconds :=
  (stretch (entryWaits config metrics pipeline before queue ++
    (earlier.map (readingWaits config (pipelineId, queue.name))).flatten)).getLast?

/-- The start of the uninterrupted wait. A reading without the queue interrupts it. -/
def freshStart : Option Seconds :=
  (stretch (entryWaits config metrics pipeline before queue ++
    interrupted (earlier.map (readingWaits config (pipelineId, queue.name))))).getLast?

/-- An entry that waits is the newest part of its wait. -/
theorem getLast?_entryWaits (older : List (Sample Seconds))
    (waits : WaitsForMarker config pipeline queue) :
    ∃ start, (stretch (entryWaits config metrics pipeline before queue ++ older)).getLast? =
      some start := by
  rw [entryWaits, waitSample, (listedAsAwaiting_iff config pipeline queue).mpr waits,
    List.cons_append, stretch_held, List.getLast?_cons]
  exact ⟨_, rfl⟩

/-- The condition that a reading shows at a place of the queues of a pipeline. -/
def shownCondition (state : Detector) (index : Nat) : Option QueueCondition :=
  ((observe config state metrics).metrics.pipelines.get? pipelineId).bind fun pipeline =>
    pipeline.queues[index]?.bind QueueInfo.condition

/-- The observed reading shows at each place the condition of its entry. -/
theorem shownCondition_eq (state : Detector) (rest : List QueueInfo)
    (listed : metrics.pipelines.get? pipelineId = some pipeline)
    (available : pipeline.queuesAvailable) (split : pipeline.queues = before ++ queue :: rest)
    (work : queue.name ∈ config.workQueues) :
    shownCondition config metrics pipelineId state before.length =
      ((state.memory (pipelineId, queue.name)).seeAll config pipeline metrics.timestamp
        (before.filter fun other => other.name = queue.name)).conditionAt
          config.awaitingMarkerSeconds metrics.timestamp
          (listedAsAwaiting config pipeline queue) queue := by
  have memory : (loop (workQueueStep config pipelineId pipeline metrics.timestamp)
      (beforeWorkQueues config state (pipelineId, pipeline)).1 before).1.memory
        (pipelineId, queue.name) =
      (state.memory (pipelineId, queue.name)).seeAll config pipeline metrics.timestamp
        (before.filter fun other => other.name = queue.name) := by
    rw [workQueueLoop_memory _ _ _ _ _ _ _ work, beforeWorkQueues_memory, if_pos rfl]
  rw [shownCondition, observed_pipeline, listed, Option.map_some, Option.bind_some]
  unfold pipelineStep workQueuesOf
  dsimp only
  rw [if_pos available, split]
  dsimp only
  rw [List.getElem?_map, loop_result_at, Option.map_some, Option.bind_some,
    workQueueStep_outcome config pipelineId pipeline metrics.timestamp _ queue work, memory]

/-- A wait that the detector sees lasts since its kept start. -/
theorem kept_waiting (work : queue.name ∈ config.workQueues) :
    (((detectorAfter config earlier).memory (pipelineId, queue.name)).seeAll config pipeline
        metrics.timestamp (before.filter fun other => other.name = queue.name)).waitingAt
          metrics.timestamp (listedAsAwaiting config pipeline queue) =
      keptStart config earlier metrics pipelineId pipeline before queue := by
  rw [keptStart, ← after_startTimer, after_append, entryWaits, after_cons,
    ← detectorAfter_awaiting config earlier (pipelineId, queue.name) work,
    ← seeAll_awaiting]
  rfl

end Entry

section Visits

variable (config : DetectorConfig) (state : Detector) (metrics : SystemMetrics)
variable (visit : QueueVisit) (member : visit ∈ queueVisits config state metrics)

include member

/-- The observed reading shows the condition of every visit at the place of its entry. -/
theorem visit_shown : ∃ before rest, visit.pipeline.queues = before ++ visit.queue :: rest ∧
    shownCondition config metrics visit.pipelineId state before.length =
      (visit.outcome config metrics.timestamp).queue.condition := by
  obtain ⟨work, listed, available⟩ := mem_queueVisits_reading config state metrics visit member
  obtain ⟨before, rest, split, memory⟩ := visit_memory config state metrics visit member
  refine ⟨before, rest, split, ?_⟩
  rw [shownCondition_eq config metrics visit.pipelineId visit.pipeline before visit.queue state rest
    listed available split work, visit_outcome config state metrics visit member, memory]
  rfl

/-- Every transition of a visit is a transition of its reading. -/
theorem visit_detected (found : Found)
    (emitted : found ∈ (visit.outcome config metrics.timestamp).found) :
    found ∈ (detect config state metrics).2 := by
  rw [queueVisits, List.mem_flatMap] at member
  obtain ⟨outer, reached, inner⟩ := member
  have inside : found ∈ (pipelineStep config metrics.timestamp outer.1 outer.2).2.found := by
    rw [mem_pipelineVisits] at inner
    obtain ⟨available, _, id, pipeline, before, rest, split, arrived⟩ := inner
    apply List.mem_append_right
    unfold workQueuesOf
    rw [if_pos available]
    refine List.mem_flatten.mpr ⟨_, List.mem_map.mpr ⟨_, ?_, rfl⟩, emitted⟩
    rw [mem_loop_results]
    refine ⟨(visit.before, visit.queue), (mem_visits_iff _ _ _ _).mpr ⟨before, rest, split, arrived⟩, ?_⟩
    rw [QueueVisit.outcome, id, pipeline]
  have listed : (pipelineStep config metrics.timestamp outer.1 outer.2).2 ∈
      (loop (pipelineStep config metrics.timestamp) state metrics.pipelines.items).2 :=
    (mem_loop_results _ _ _ _).mpr ⟨outer, reached, rfl⟩
  unfold detect
  exact List.mem_append_left _ (List.mem_append_left _
    (List.mem_flatten.mpr ⟨_, List.mem_map.mpr ⟨_, listed, rfl⟩, inside⟩))

/-- A reading shows the kind of the condition of every visit, and its events tell the visit's
transitions. -/
theorem visit_observed :
    (∃ before rest, visit.pipeline.queues = before ++ visit.queue :: rest ∧
      (shownCondition config metrics visit.pipelineId state before.length).map QueueCondition.kind =
        visit.conditionKind config metrics.timestamp) ∧
    ∀ found ∈ (visit.outcome config metrics.timestamp).found,
      ∃ event ∈ (observe config state metrics).events, event.found = found := by
  constructor
  · obtain ⟨before, rest, split, shown⟩ := visit_shown config state metrics visit member
    exact ⟨before, rest, split, by rw [shown, QueueVisit.conditionKind]⟩
  · intro found emitted
    have detected := visit_detected config state metrics visit member found emitted
    rw [← observe_events_found] at detected
    exact List.mem_map.mp detected

end Visits

/-- An entry is awaiting its marker exactly while its wait is within the bound, it is a fault with
the label of the wait after that, and without the listing it is a plain fault. -/
structure BoundedWait (config : DetectorConfig) (pipeline : PipelineMetrics) (queue : QueueInfo)
    (now : Seconds) (start : Option Seconds) (condition : Option QueueCondition) : Prop where
  awaiting : condition.map QueueCondition.kind = some .awaitingMarker ↔
    WaitsForMarker config pipeline queue ∧
      ∃ since, start = some since ∧ now - since < config.awaitingMarkerSeconds
  late : WaitsForMarker config pipeline queue →
    ∀ since, start = some since → config.awaitingMarkerSeconds ≤ now - since →
      ∃ span, condition = some ⟨.noConsumer, "NO CONSUMER · marker waiting " ++ span⟩
  unlisted : 0 < queue.messages → queue.consumers = 0 → ¬WaitsForMarker config pipeline queue →
    condition = some ⟨.noConsumer, "NO CONSUMER"⟩

/-- A condition follows the wait that it is computed from. -/
theorem conditionOf_bounded (config : DetectorConfig) (pipeline : PipelineMetrics)
    (queue : QueueInfo) (now zero : Seconds) (start : Option Seconds)
    (waits : start.isSome = true ↔ WaitsForMarker config pipeline queue) :
    BoundedWait config pipeline queue now start
      (conditionOf queue zero (start.map fun since => now - since)
        config.awaitingMarkerSeconds) where
  awaiting := by
    rw [conditionOf_awaiting_iff, ← waits]
    constructor
    · rintro ⟨_, seconds, waited, early⟩
      obtain ⟨since, began, rfl⟩ := Option.map_eq_some_iff.mp waited
      exact ⟨by rw [began]; rfl, since, began, early⟩
    · rintro ⟨listed, since, began, early⟩
      obtain ⟨backlog, unattended, _⟩ := waits.mp listed
      exact ⟨⟨backlog, unattended⟩, _, by rw [began]; rfl, early⟩
  late listed since began late := by
    obtain ⟨backlog, unattended, _⟩ := listed
    unfold conditionOf
    rw [if_pos ⟨backlog, unattended⟩, began]
    dsimp only [Option.map_some]
    rw [if_neg late.not_gt]
    exact ⟨_, rfl⟩
  unlisted backlog unattended unlisted := by
    have absent : start = none := by
      rw [← Option.not_isSome_iff_eq_none]
      exact fun present => unlisted (waits.mp present)
    unfold conditionOf
    rw [if_pos ⟨backlog, unattended⟩, absent]
    rfl

/-- Every wait of a work queue in a run is bounded from its uninterrupted start. -/
def WaitsBounded (config : DetectorConfig) (history : List SystemMetrics) : Prop :=
  ∀ metrics earlier, metrics :: earlier <:+ history →
    ∀ pipelineId pipeline before queue rest,
      metrics.pipelines.get? pipelineId = some pipeline → pipeline.queuesAvailable →
        pipeline.queues = before ++ queue :: rest → queue.name ∈ config.workQueues →
          BoundedWait config pipeline queue metrics.timestamp
            (freshStart config earlier metrics pipelineId pipeline before queue)
            (shownCondition config metrics pipelineId (detectorAfter config earlier) before.length)

/-- No wait of a work queue reaches back over a reading without the queue to a start on the other
side of the bound. -/
def StartsAgree (config : DetectorConfig) (history : List SystemMetrics) : Prop :=
  ∀ metrics earlier, metrics :: earlier <:+ history →
    ∀ pipelineId pipeline before queue rest,
      metrics.pipelines.get? pipelineId = some pipeline → pipeline.queuesAvailable →
        pipeline.queues = before ++ queue :: rest → queue.name ∈ config.workQueues →
          WaitsForMarker config pipeline queue →
            ∀ kept fresh, keptStart config earlier metrics pipelineId pipeline before queue =
                some kept →
              freshStart config earlier metrics pipelineId pipeline before queue = some fresh →
              (metrics.timestamp - kept < config.awaitingMarkerSeconds ↔
                metrics.timestamp - fresh < config.awaitingMarkerSeconds)

/-- The detector bounds each wait from the start that it keeps. -/
theorem keptStart_bounded (config : DetectorConfig) (earlier : List SystemMetrics)
    (metrics : SystemMetrics) (pipelineId : String) (pipeline : PipelineMetrics)
    (before rest : List QueueInfo) (queue : QueueInfo)
    (listed : metrics.pipelines.get? pipelineId = some pipeline)
    (available : pipeline.queuesAvailable) (split : pipeline.queues = before ++ queue :: rest)
    (work : queue.name ∈ config.workQueues) :
    BoundedWait config pipeline queue metrics.timestamp
      (keptStart config earlier metrics pipelineId pipeline before queue)
      (shownCondition config metrics pipelineId (detectorAfter config earlier)
        before.length) := by
  have waiting := kept_waiting config earlier metrics pipelineId pipeline before queue work
  rw [shownCondition_eq config metrics pipelineId pipeline before queue _ rest listed available
    split work, QueueMemory.conditionAt, waiting]
  apply conditionOf_bounded
  rw [← waiting, ← listedAsAwaiting_iff, QueueMemory.waitingAt]
  cases listedAsAwaiting config pipeline queue <;> simp

/-- Two starts bound a waiting entry alike exactly when they lie on one side of the bound. -/
theorem boundedWait_congr (config : DetectorConfig) (pipeline : PipelineMetrics)
    (queue : QueueInfo) (now kept fresh : Seconds) (condition : Option QueueCondition)
    (waits : WaitsForMarker config pipeline queue)
    (bounded : BoundedWait config pipeline queue now (some kept) condition) :
    BoundedWait config pipeline queue now (some fresh) condition ↔
      (now - kept < config.awaitingMarkerSeconds ↔
        now - fresh < config.awaitingMarkerSeconds) := by
  have shown := bounded.awaiting
  simp only [waits, true_and, Option.some.injEq, exists_eq_left'] at shown
  constructor
  · intro other
    have verdict := other.awaiting
    simp only [waits, true_and, Option.some.injEq, exists_eq_left'] at verdict
    exact shown.symm.trans verdict
  · intro side
    constructor
    · simp only [waits, true_and, Option.some.injEq, exists_eq_left']
      exact shown.trans side
    · intro listed since began late
      rw [← Option.some.inj began] at late
      exact bounded.late listed kept rfl (not_lt.mp fun early => (side.mp early).not_ge late)
    · intro _ _ unlisted
      exact absurd waits unlisted

/-- An entry that does not wait is bounded from every start. -/
theorem boundedWait_of_unlisted (config : DetectorConfig) (pipeline : PipelineMetrics)
    (queue : QueueInfo) (now : Seconds) (kept fresh : Option Seconds)
    (condition : Option QueueCondition) (unlisted : ¬WaitsForMarker config pipeline queue)
    (bounded : BoundedWait config pipeline queue now kept condition) :
    BoundedWait config pipeline queue now fresh condition where
  awaiting := by
    have shown := bounded.awaiting
    simp only [unlisted, false_and] at shown ⊢
    exact shown
  late listed := absurd listed unlisted
  unlisted := bounded.unlisted

/-- Every wait of a run is bounded from its uninterrupted start exactly when no wait reaches back
over a reading without its queue to the other side of the bound. -/
theorem waitsBounded_iff (config : DetectorConfig) (history : List SystemMetrics) :
    WaitsBounded config history ↔ StartsAgree config history := by
  constructor
  · intro bounded metrics earlier suffix pipelineId pipeline before queue rest listed available
      split work waits kept fresh began restarted
    have code := keptStart_bounded config earlier metrics pipelineId pipeline before rest queue
      listed available split work
    have rule := bounded metrics earlier suffix pipelineId pipeline before queue rest listed
      available split work
    rw [began] at code
    rw [restarted] at rule
    exact (boundedWait_congr config pipeline queue _ kept fresh _ waits code).mp rule
  · intro agree metrics earlier suffix pipelineId pipeline before queue rest listed available
      split work
    have code := keptStart_bounded config earlier metrics pipelineId pipeline before rest queue
      listed available split work
    by_cases waits : WaitsForMarker config pipeline queue
    · obtain ⟨kept, began⟩ := getLast?_entryWaits config metrics pipeline before queue
        (earlier.map (readingWaits config (pipelineId, queue.name))).flatten waits
      obtain ⟨fresh, restarted⟩ := getLast?_entryWaits config metrics pipeline before queue
        (interrupted (earlier.map (readingWaits config (pipelineId, queue.name)))) waits
      rw [keptStart, began] at code
      rw [freshStart, restarted]
      exact (boundedWait_congr config pipeline queue _ kept fresh _ waits code).mpr
        (agree metrics earlier suffix pipelineId pipeline before queue rest listed available split
          work waits kept fresh began restarted)
    · exact boundedWait_of_unlisted config pipeline queue _ _ _ _ waits code

/-- This reading of the pipeline does not contain the work queue. -/
def emptyReading (timestamp : Seconds) : SystemMetrics where
  pipelines := Dict.empty.set "discogs"
    { services := [⟨"graphinator", "healthy", some ["artists"]⟩], queues := [] }
  timestamp := timestamp

/-- The reading of a wait shows this entry of the queue. -/
def parkedQueue : QueueInfo := ⟨"discogs-graphinator-artists", 8, 8, 0, 0, none, none, none⟩

def parkedPipeline : PipelineMetrics where
  services := [⟨"graphinator", "healthy", some ["artists"]⟩]
  queues := [parkedQueue]

/-- A wait that begins after a reading without the queue is late at once. -/
theorem waitsBounded_fails :
    ¬WaitsBounded oneQueueConfig
      [waitingReading 61 ["artists"], emptyReading 30, waitingReading 0 ["artists"]] := by
  intro bounded
  have rule := bounded (waitingReading 61 ["artists"])
    [emptyReading 30, waitingReading 0 ["artists"]] List.suffix_rfl "discogs" parkedPipeline []
    parkedQueue [] rfl rfl rfl (by decide)
  have shown : (shownCondition oneQueueConfig (waitingReading 61 ["artists"]) "discogs"
      (detectorAfter oneQueueConfig [emptyReading 30, waitingReading 0 ["artists"]]) 0).map
        QueueCondition.kind = some .noConsumer := by
    decide +kernel
  have fresh : freshStart oneQueueConfig [emptyReading 30, waitingReading 0 ["artists"]]
      (waitingReading 61 ["artists"]) "discogs" parkedPipeline [] parkedQueue = some 61 := by
    decide +kernel
  have waits : WaitsForMarker oneQueueConfig parkedPipeline parkedQueue := by
    rw [← listedAsAwaiting_iff]
    decide
  have awaiting := rule.awaiting.mpr ⟨waits, 61, fresh, by
    show (61 : ℚ) - 61 < 60
    norm_num⟩
  rw [List.length_nil, shown] at awaiting
  cases awaiting

end OperationsConsole
