/-
This file decides when an expected marker wait is announced.
The feed keeps its closed set of kinds as long as no wait follows a remembered fault.
-/

import OperationsConsole.Events.QueueVisits

namespace OperationsConsole

open Library

/-- These are the kinds that the feed documents. -/
def eventKinds : List String :=
  ["service-down", "service-recovered", "datastore-up", "datastore-down", "queues-available",
    "queues-unavailable", "dlq-grew", "dlq-emptied", "queue-no-consumer", "queue-stalled",
    "queue-recovered"]

/-- A run produces the events of its readings, the oldest first. -/
def producedEvents (config : DetectorConfig) : List SystemMetrics → List Event
  | [] => []
  | metrics :: earlier =>
      producedEvents config earlier ++ (observe config (detectorAfter config earlier) metrics).events

/-- An event without its number and its time. -/
def Event.found (event : Event) : Found := ⟨event.level, event.kind, event.subject, event.message⟩

/-- The events of a reading are its transitions in order. -/
theorem observe_events_found (config : DetectorConfig) (state : Detector)
    (metrics : SystemMetrics) :
    (observe config state metrics).events.map Event.found = (detect config state metrics).2 := by
  have keys := loop_keys (recordStep config metrics.timestamp) id Event.found
    (detect config state metrics).1 (detect config state metrics).2 fun _ _ => rfl
  rw [List.map_id] at keys
  exact keys

/-- A transition of a loop is a transition of one visit. -/
theorem mem_loop_flatten {σ α : Type} (body : σ → α → σ × List Found) (state : σ)
    (items : List α) (found : Found) (member : found ∈ (loop body state items).2.flatten) :
    ∃ visit ∈ visits body state items, found ∈ (body visit.1 visit.2).2 := by
  rw [List.mem_flatten] at member
  obtain ⟨founds, result, inside⟩ := member
  rw [mem_loop_results] at result
  obtain ⟨visit, reached, same⟩ := result
  exact ⟨visit, reached, same ▸ inside⟩

/-- A transition that does not come from a work queue has one of these kinds. -/
def plainKinds : List String :=
  ["service-down", "service-recovered", "datastore-up", "datastore-down", "queues-available",
    "queues-unavailable", "dlq-grew", "dlq-emptied"]

/-- A transition that is not about a queue has one of these kinds. -/
def statusKinds : List String :=
  ["service-down", "service-recovered", "datastore-up", "datastore-down", "queues-available",
    "queues-unavailable"]

theorem plainKinds_of_status (kind : String) (status : kind ∈ statusKinds) : kind ∈ plainKinds :=
  List.mem_append_left ["dlq-grew", "dlq-emptied"] status

/-- A service tells a change of its state only. -/
theorem serviceStep_kind (pipelineId : String) (state : Detector) (service : ServiceStatus)
    (found : Found) (member : found ∈ (serviceStep pipelineId state service).2) :
    found.kind ∈ statusKinds := by
  unfold serviceStep at member
  dsimp only at member
  split at member
  · split at member
    · rw [List.mem_singleton.mp member]
      simp [statusKinds]
    · rw [List.mem_singleton.mp member]
      simp [statusKinds]
  · simp at member

/-- A platform service tells a change of its state only. -/
theorem platformStep_kind (state : Detector) (service : PlatformService) (found : Found)
    (member : found ∈ (platformStep state service).2) : found.kind ∈ statusKinds := by
  unfold platformStep at member
  split at member
  · simp at member
  split at member
  · simp at member
  dsimp only at member
  split at member
  · split at member
    · rw [List.mem_singleton.mp member]
      simp [statusKinds]
    · rw [List.mem_singleton.mp member]
      simp [statusKinds]
  · simp at member

/-- A datastore tells a change of its state only. -/
theorem datastoreStep_kind (state : Detector) (database : DatabaseInfo) (found : Found)
    (member : found ∈ (datastoreStep state database).2) : found.kind ∈ statusKinds := by
  unfold datastoreStep at member
  dsimp only at member
  split at member
  · split at member
    · rw [List.mem_singleton.mp member]
      simp [statusKinds]
    · rw [List.mem_singleton.mp member]
      simp [statusKinds]
  · simp at member

/-- A dead-letter queue tells no condition. -/
theorem deadLetterStep_kind (config : DetectorConfig) (pipelineId : String) (state : Detector)
    (queue : QueueInfo) (found : Found)
    (member : found ∈ (deadLetterStep config pipelineId state queue).2) :
    found.kind ∈ plainKinds := by
  unfold deadLetterStep at member
  split at member
  · simp at member
  dsimp only at member
  split at member
  · simp at member
  split at member
  · simp at member
  split at member
  · rw [List.mem_singleton.mp member]
    simp [plainKinds]
  split at member
  · rw [List.mem_singleton.mp member]
    simp [plainKinds]
  · simp at member

/-- The broker tells a change of its state only. -/
theorem availabilityFound_kind (pipelineId : String) (previous : Option Bool) (available : Bool)
    (found : Found) (member : found ∈ availabilityFound pipelineId previous available) :
    found.kind ∈ statusKinds := by
  unfold availabilityFound at member
  split at member
  · split at member
    · rw [List.mem_singleton.mp member]
      simp [statusKinds]
    · rw [List.mem_singleton.mp member]
      simp [statusKinds]
  · simp at member

/-- The broker and its dead-letter queues tell no condition. -/
theorem brokerOf_kind (config : DetectorConfig) (pipelineId : String) (pipeline : PipelineMetrics)
    (state : Detector) (found : Found)
    (member : found ∈ (brokerOf config pipelineId pipeline state).2) : found.kind ∈ plainKinds := by
  unfold brokerOf at member
  dsimp only at member
  split at member
  · rw [List.mem_append] at member
    rcases member with inside | inside
    · exact plainKinds_of_status _ (availabilityFound_kind _ _ _ found inside)
    · obtain ⟨visit, _, emitted⟩ := mem_loop_flatten _ _ _ _ inside
      exact deadLetterStep_kind config pipelineId visit.1 visit.2 found emitted
  · exact plainKinds_of_status _ (availabilityFound_kind _ _ _ found member)

/-- Nothing before the work queues tells a condition. -/
theorem beforeWorkQueues_kind (config : DetectorConfig) (state : Detector)
    (item : String × PipelineMetrics) (found : Found)
    (member : found ∈ (beforeWorkQueues config state item).2) : found.kind ∈ plainKinds := by
  unfold beforeWorkQueues at member
  rw [List.mem_append] at member
  rcases member with inside | inside
  · obtain ⟨visit, _, emitted⟩ := mem_loop_flatten _ _ _ _ inside
    exact plainKinds_of_status _ (serviceStep_kind item.1 visit.1 visit.2 found emitted)
  · exact brokerOf_kind config item.1 item.2 _ found inside

/-- A queue that is not a work queue produces no transition. -/
theorem workQueueStep_of_other (config : DetectorConfig) (pipelineId : String)
    (pipeline : PipelineMetrics) (now : Seconds) (state : Detector) (queue : QueueInfo)
    (other : queue.name ∉ config.workQueues) :
    workQueueStep config pipelineId pipeline now state queue = (state, ⟨queue, []⟩) := by
  rw [workQueueStep, if_pos other]

/-- What the work queues tell is told by a visit. -/
theorem workQueuesOf_found (config : DetectorConfig) (now : Seconds) (state : Detector)
    (item : String × PipelineMetrics) (found : Found)
    (member : found ∈
      (workQueuesOf config item.1 item.2 now (beforeWorkQueues config state item).1).2.found) :
    ∃ visit ∈ pipelineVisits config now state item, found ∈ (visit.outcome config now).found := by
  unfold workQueuesOf at member
  split at member
  · rename_i available
    rw [List.mem_flatten] at member
    obtain ⟨founds, listed, inside⟩ := member
    obtain ⟨outcome, result, same⟩ := List.mem_map.mp listed
    rw [mem_loop_results] at result
    obtain ⟨inner, reached, equal⟩ := result
    have emitted : found ∈
        (workQueueStep config item.1 item.2 now inner.1 inner.2).2.found := by
      rw [equal, same]
      exact inside
    have work : inner.2.name ∈ config.workQueues := by
      by_contra other
      rw [workQueueStep_of_other config _ _ _ _ _ other] at emitted
      simp at emitted
    rw [mem_visits_iff] at reached
    obtain ⟨before, rest, split, arrived⟩ := reached
    refine ⟨⟨inner.1, item.1, item.2, inner.2⟩, ?_, emitted⟩
    rw [mem_pipelineVisits]
    exact ⟨available, work, rfl, rfl, before, rest, split, arrived⟩
  · simp at member

/-- Every transition of a reading has a plain kind or comes from a visit to a work queue. -/
theorem detect_found (config : DetectorConfig) (state : Detector) (metrics : SystemMetrics)
    (found : Found) (member : found ∈ (detect config state metrics).2) :
    found.kind ∈ plainKinds ∨ ∃ visit ∈ queueVisits config state metrics,
      found ∈ (visit.outcome config metrics.timestamp).found := by
  unfold detect at member
  dsimp only at member
  rw [List.mem_append, List.mem_append] at member
  rcases member with (inside | inside) | inside
  · rw [List.mem_flatten] at inside
    obtain ⟨founds, listed, inside⟩ := inside
    obtain ⟨outcome, result, same⟩ := List.mem_map.mp listed
    rw [mem_loop_results] at result
    obtain ⟨outer, reached, equal⟩ := result
    rw [← same, ← equal, pipelineStep] at inside
    dsimp only at inside
    rw [List.mem_append] at inside
    rcases inside with plain | work
    · exact .inl (beforeWorkQueues_kind config outer.1 outer.2 found plain)
    · obtain ⟨visit, inner, emitted⟩ :=
        workQueuesOf_found config metrics.timestamp outer.1 outer.2 found work
      exact .inr ⟨visit, List.mem_flatMap.mpr ⟨outer, reached, inner⟩, emitted⟩
  · obtain ⟨visit, _, emitted⟩ := mem_loop_flatten _ _ _ _ inside
    exact .inl (plainKinds_of_status _ (platformStep_kind visit.1 visit.2 found emitted))
  · obtain ⟨visit, _, emitted⟩ := mem_loop_flatten _ _ _ _ inside
    exact .inl (plainKinds_of_status _ (datastoreStep_kind visit.1 visit.2 found emitted))

/-- The transition of a queue whose remembered kind changes. -/
def transition (condition : Option QueueCondition) (queue : QueueInfo) : Found :=
  match condition with
  | some condition =>
      ⟨.error, "queue-" ++ kindText (rememberedKind condition), queue.name,
        queue.name ++ ": " ++ condition.label⟩
  | none =>
      ⟨.info, "queue-recovered", queue.name,
        queue.name ++ " is " ++ if queue.messages = 0 then "drained" else "flowing"⟩

/-- A condition is told exactly if it is of another kind than the known one. -/
theorem announcement_eq (known : Option (Option ConditionKind)) (condition : Option QueueCondition)
    (queue : QueueInfo) :
    announcement known condition queue =
      if known = none ∨ known = some (rememberedKind condition) then []
      else [transition condition queue] := by
  unfold announcement
  dsimp only
  split
  · rfl
  · cases condition <;> rfl

/-- An entry waits for its marker with a backlog, without a consumer, and within the bound. -/
theorem conditionOf_awaiting_iff (queue : QueueInfo) (zero : Seconds) (awaiting : Option Seconds)
    (bound : Seconds) :
    (conditionOf queue zero awaiting bound).map QueueCondition.kind = some .awaitingMarker ↔
      (0 < queue.messages ∧ queue.consumers = 0) ∧ ∃ seconds, awaiting = some seconds ∧
        seconds < bound := by
  unfold conditionOf
  split
  · rename_i stuck
    cases awaiting with
    | none => simp
    | some seconds =>
        by_cases early : seconds < bound <;> simp [early, stuck]
  · rename_i moving
    split <;> simp [moving]

/-- Only an entry with a backlog and without a consumer is listed as waiting. -/
theorem listedAsAwaiting_stuck (config : DetectorConfig) (pipeline : PipelineMetrics)
    (queue : QueueInfo) (listed : listedAsAwaiting config pipeline queue = true) :
    0 < queue.messages ∧ queue.consumers = 0 := by
  unfold listedAsAwaiting at listed
  split at listed
  · simp at listed
  · split at listed
    · assumption
    · simp at listed

/-- An entry is an expected wait when its service lists it and the wait is within the bound. -/
def ExpectedWait (config : DetectorConfig) (now : Seconds) (visit : QueueVisit) : Prop :=
  listedAsAwaiting config visit.pipeline visit.queue = true ∧
    now - (visit.before.awaitingSince.get? visit.key).getD now < config.awaitingMarkerSeconds

/-- No expected wait of the run follows a remembered fault of the same queue. -/
def WaitsFollowNoFault (config : DetectorConfig) (history : List SystemMetrics) : Prop :=
  ∀ metrics earlier, metrics :: earlier <:+ history →
    ∀ visit ∈ queueVisits config (detectorAfter config earlier) metrics,
      ExpectedWait config metrics.timestamp visit →
        ∀ kind, visit.before.conditions.get? visit.key ≠ some (some kind)

/-- This is the announcement rule of a run: a wait is silent, every kind is documented, and a
fault event carries the level and the kind of the condition that the reading shows. -/
structure AnnouncesOnlyFaults (config : DetectorConfig) (history : List SystemMetrics) : Prop where
  silent : ∀ metrics earlier, metrics :: earlier <:+ history →
    ∀ visit ∈ queueVisits config (detectorAfter config earlier) metrics,
      visit.conditionKind config metrics.timestamp = some .awaitingMarker →
        (visit.outcome config metrics.timestamp).found = []
  closed : ∀ event ∈ producedEvents config history, event.kind ∈ eventKinds
  levels : ∀ metrics earlier, metrics :: earlier <:+ history →
    ∀ visit ∈ queueVisits config (detectorAfter config earlier) metrics,
      ∀ found ∈ (visit.outcome config metrics.timestamp).found,
        ∀ kind ∈ [ConditionKind.noConsumer, ConditionKind.stalled],
          (found.kind = "queue-" ++ kind.text ∧ found.level = .error ↔
            visit.conditionKind config metrics.timestamp = some kind)
  origin : ∀ metrics earlier, metrics :: earlier <:+ history →
    ∀ event ∈ (observe config (detectorAfter config earlier) metrics).events,
      ∀ kind ∈ [ConditionKind.noConsumer, ConditionKind.stalled],
        event.kind = "queue-" ++ kind.text → event.level = .error ∧
          ∃ visit ∈ queueVisits config (detectorAfter config earlier) metrics,
            visit.queue.name = event.subject ∧
              visit.conditionKind config metrics.timestamp = some kind

section Visit

variable (config : DetectorConfig) (state : Detector) (metrics : SystemMetrics)
  (visit : QueueVisit) (member : visit ∈ queueVisits config state metrics)
include member

/-- A visit shows the marker wait exactly on an expected wait. -/
theorem visit_awaiting_iff :
    visit.conditionKind config metrics.timestamp = some .awaitingMarker ↔
      ExpectedWait config metrics.timestamp visit := by
  rw [QueueVisit.conditionKind, visit_outcome config state metrics visit member]
  dsimp only
  rw [QueueMemory.conditionAt, conditionOf_awaiting_iff, ExpectedWait, QueueMemory.waitingAt]
  constructor
  · rintro ⟨_, seconds, waiting, early⟩
    cases listed : listedAsAwaiting config visit.pipeline visit.queue with
    | false => simp [listed] at waiting
    | true =>
        rw [listed, if_pos rfl, Option.map_some, Option.some.injEq] at waiting
        exact ⟨rfl, by rw [← waiting] at early; exact early⟩
  · rintro ⟨listed, early⟩
    refine ⟨listedAsAwaiting_stuck config _ _ listed, _, ?_, early⟩
    rw [listed, if_pos rfl]
    rfl

/-- A visit announces the transition of its entry unless its kind is new or unchanged. -/
theorem visit_found :
    (visit.outcome config metrics.timestamp).found =
      let condition := (visit.outcome config metrics.timestamp).queue.condition
      if visit.memory.condition = none ∨ visit.memory.condition = some (rememberedKind condition)
      then [] else [transition condition visit.queue] := by
  rw [visit_outcome config state metrics visit member]
  dsimp only
  rw [announcement_eq]

/-- A visit to an expected wait is silent exactly when no fault is remembered. -/
theorem visit_wait_silent_iff
    (awaiting : visit.conditionKind config metrics.timestamp = some .awaitingMarker) :
    (visit.outcome config metrics.timestamp).found = [] ↔
      ∀ kind, visit.before.conditions.get? visit.key ≠ some (some kind) := by
  rw [visit_found config state metrics visit member]
  rw [QueueVisit.conditionKind, Option.map_eq_some_iff] at awaiting
  obtain ⟨condition, shown, kind⟩ := awaiting
  have forgotten : rememberedKind (some condition) = none := by
    rw [rememberedKind, if_pos kind]
  dsimp only
  rw [shown, forgotten]
  change _ ↔ ∀ kind, visit.memory.condition ≠ some (some kind)
  rcases visit.memory.condition with _ | (_ | remembered)
  · simp
  · simp
  · simp

/-- A transition of a visit has the fault's level and kind exactly when it shows that fault. -/
theorem visit_level_iff (found : Found)
    (emitted : found ∈ (visit.outcome config metrics.timestamp).found) (kind : ConditionKind)
    (fault : kind ∈ [ConditionKind.noConsumer, ConditionKind.stalled]) :
    found.kind = "queue-" ++ kind.text ∧ found.level = .error ↔
      visit.conditionKind config metrics.timestamp = some kind := by
  rw [visit_found config state metrics visit member] at emitted
  dsimp only at emitted
  split at emitted
  · simp at emitted
  · rw [List.mem_singleton.mp emitted, QueueVisit.conditionKind]
    cases (visit.outcome config metrics.timestamp).queue.condition with
    | none => simp [transition]
    | some condition =>
        simp only [transition, rememberedKind, Option.map_some, Option.some.injEq, and_true]
        simp only [List.mem_cons, List.not_mem_nil, or_false] at fault
        rcases fault with equal | equal <;> subst equal <;> cases condition.kind <;> decide

/-- A transition of a visit has a documented kind unless it announces a wait. -/
theorem visit_kind (found : Found)
    (emitted : found ∈ (visit.outcome config metrics.timestamp).found)
    (shown : visit.conditionKind config metrics.timestamp ≠ some .awaitingMarker) :
    found.kind ∈ eventKinds := by
  rw [visit_found config state metrics visit member] at emitted
  dsimp only at emitted
  split at emitted
  · simp at emitted
  · rw [List.mem_singleton.mp emitted]
    rw [QueueVisit.conditionKind] at shown
    revert shown
    cases (visit.outcome config metrics.timestamp).queue.condition with
    | none => simp [transition, eventKinds]
    | some condition =>
        simp only [transition, rememberedKind, Option.map_some, ne_eq, Option.some.injEq]
        cases condition.kind <;> decide

end Visit

/-- Every produced event comes from one reading of the run. -/
theorem mem_producedEvents (config : DetectorConfig) (history : List SystemMetrics)
    (event : Event) (member : event ∈ producedEvents config history) :
    ∃ metrics earlier, metrics :: earlier <:+ history ∧
      event ∈ (observe config (detectorAfter config earlier) metrics).events := by
  induction history with
  | nil => simp [producedEvents] at member
  | cons metrics earlier ih =>
      rw [producedEvents, List.mem_append] at member
      rcases member with inside | inside
      · obtain ⟨reading, before, suffix, emitted⟩ := ih inside
        exact ⟨reading, before, suffix.trans (List.suffix_cons _ _), emitted⟩
      · exact ⟨metrics, earlier, List.suffix_rfl, inside⟩

/-- An event of a reading has a plain kind or comes from a visit to a work queue. -/
theorem observe_event (config : DetectorConfig) (state : Detector) (metrics : SystemMetrics)
    (event : Event) (member : event ∈ (observe config state metrics).events) :
    event.kind ∈ plainKinds ∨ ∃ visit ∈ queueVisits config state metrics,
      event.found ∈ (visit.outcome config metrics.timestamp).found := by
  have found : event.found ∈ (detect config state metrics).2 := by
    rw [← observe_events_found]
    exact List.mem_map.mpr ⟨event, member, rfl⟩
  exact detect_found config state metrics event.found found

theorem plainKinds_subset (kind : String) (plain : kind ∈ plainKinds) : kind ∈ eventKinds := by
  simp only [plainKinds, eventKinds, List.mem_cons, List.not_mem_nil, or_false] at plain ⊢
  tauto

/-- A fault kind is neither plain nor a recovery. -/
theorem fault_kind_distinct (kind : ConditionKind)
    (fault : kind ∈ [ConditionKind.noConsumer, ConditionKind.stalled]) :
    "queue-" ++ kind.text ∉ plainKinds ∧ "queue-" ++ kind.text ≠ "queue-recovered" := by
  simp only [List.mem_cons, List.not_mem_nil, or_false] at fault
  rcases fault with equal | equal <;> subst equal <;> decide

/-- A fault event of a reading is an error of a visit that shows the fault. -/
theorem observe_fault_origin (config : DetectorConfig) (state : Detector)
    (metrics : SystemMetrics) (event : Event)
    (member : event ∈ (observe config state metrics).events) (kind : ConditionKind)
    (fault : kind ∈ [ConditionKind.noConsumer, ConditionKind.stalled])
    (named : event.kind = "queue-" ++ kind.text) :
    event.level = .error ∧ ∃ visit ∈ queueVisits config state metrics,
      visit.queue.name = event.subject ∧
        visit.conditionKind config metrics.timestamp = some kind := by
  rcases observe_event config state metrics event member with plain | ⟨visit, reached, emitted⟩
  · rw [named] at plain
    exact absurd plain (fault_kind_distinct kind fault).1
  · have levels := visit_level_iff config state metrics visit reached event.found emitted kind fault
    have shape := emitted
    rw [visit_found config state metrics visit reached] at shape
    dsimp only at shape
    split at shape
    · simp at shape
    · rw [List.mem_singleton] at shape
      have subject : event.subject = visit.queue.name := by
        rw [show event.subject = event.found.subject from rfl, shape]
        unfold transition
        split <;> rfl
      have level : event.level = .error := by
        rw [show event.level = event.found.level from rfl, shape]
        unfold transition
        split
        · rfl
        · rename_i healthy
          have recovered : event.kind = "queue-recovered" := by
            rw [show event.kind = event.found.kind from rfl, shape, healthy]
            rfl
          rw [named] at recovered
          exact absurd recovered (fault_kind_distinct kind fault).2
      exact ⟨level, visit, reached, subject.symm, levels.mp ⟨named, level⟩⟩

/-- A run follows the announcement rule exactly when no expected wait follows a fault. -/
theorem announcesOnlyFaults_iff (config : DetectorConfig) (history : List SystemMetrics) :
    AnnouncesOnlyFaults config history ↔ WaitsFollowNoFault config history := by
  constructor
  · intro rule metrics earlier suffix visit reached expected
    have awaiting := (visit_awaiting_iff config _ metrics visit reached).mpr expected
    exact (visit_wait_silent_iff config _ metrics visit reached awaiting).mp
      (rule.silent metrics earlier suffix visit reached awaiting)
  · intro follows
    have silent : ∀ metrics earlier, metrics :: earlier <:+ history →
        ∀ visit ∈ queueVisits config (detectorAfter config earlier) metrics,
          visit.conditionKind config metrics.timestamp = some .awaitingMarker →
            (visit.outcome config metrics.timestamp).found = [] := by
      intro metrics earlier suffix visit reached awaiting
      rw [visit_wait_silent_iff config _ metrics visit reached awaiting]
      exact follows metrics earlier suffix visit reached
        ((visit_awaiting_iff config _ metrics visit reached).mp awaiting)
    refine ⟨silent, ?_, ?_, ?_⟩
    · intro event member
      obtain ⟨metrics, earlier, suffix, emitted⟩ := mem_producedEvents config history event member
      rcases observe_event config _ metrics event emitted with plain | ⟨visit, reached, found⟩
      · exact plainKinds_subset event.kind plain
      · apply visit_kind config _ metrics visit reached event.found found
        intro awaiting
        rw [silent metrics earlier suffix visit reached awaiting] at found
        simp at found
    · intro metrics earlier _ visit reached found emitted kind fault
      exact visit_level_iff config _ metrics visit reached found emitted kind fault
    · intro metrics earlier _ event emitted kind fault named
      exact observe_fault_origin config _ metrics event emitted kind fault named

/-- This detector watches one work queue of one consumer. -/
def oneQueueConfig : DetectorConfig where
  workQueues := ["discogs-graphinator-artists"]
  queueOwners := Dict.empty.set "discogs-graphinator-artists" ("graphinator", "artists")

/-- This reading shows the queue with a backlog, no consumer, and one awaiting list. -/
def waitingReading (timestamp : Seconds) (awaiting : List String) : SystemMetrics where
  pipelines := Dict.empty.set "discogs"
    { services := [⟨"graphinator", "healthy", some awaiting⟩]
      queues := [⟨"discogs-graphinator-artists", 8, 8, 0, 0, none, none, none⟩] }
  timestamp := timestamp

/-- A wait that follows a missing consumer is announced as an error of kind `queue-None`. -/
theorem announcesOnlyFaults_fails :
    ¬ AnnouncesOnlyFaults oneQueueConfig
      [waitingReading 2 ["artists"], waitingReading 0 []] := by
  intro rule
  have undocumented : (producedEvents oneQueueConfig
      [waitingReading 2 ["artists"], waitingReading 0 []]).map Event.kind = ["queue-None"] := by
    decide +kernel
  obtain ⟨event, member, kind⟩ := List.mem_map.mp (by
    rw [undocumented]
    exact List.mem_singleton_self "queue-None")
  have closed := rule.closed event member
  rw [kind] at closed
  revert closed
  decide

end OperationsConsole
