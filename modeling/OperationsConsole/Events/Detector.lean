/-
This file embeds the event detector of `dashboard/events.py`.
Each loop body of the source is one step function, and each method runs its loop.
-/

import Mathlib.Data.Rat.Floor
import OperationsConsole.Events.Readings
import OperationsConsole.Library.Loop

namespace OperationsConsole

open Library

def eventRingSize : Nat := 200

def stallSeconds : Seconds := 60

def stallLabelCapSeconds : Seconds := 300

def gapSeconds : Seconds := 30

def awaitingMarkerSeconds : Seconds := 60

/-- A service in one of these statuses is not serving. -/
def isServiceDown (status : String) : Bool := ["unhealthy", "unknown", "unreachable"].contains status

def isServiceInactive (status : String) : Bool := ["disabled", "unconfigured"].contains status

/-- This rounding takes a tie to the even neighbour. -/
def roundHalfEven (value : ℚ) : ℤ :=
  let below := ⌊value⌋
  if value - below < 1 / 2 then below
  else if 1 / 2 < value - below then below + 1
  else if below % 2 = 0 then below
  else below + 1

/-- A rounded number is at least every integer below the number. -/
theorem le_roundHalfEven (count : ℤ) (value : ℚ) (below : (count : ℚ) ≤ value) :
    count ≤ roundHalfEven value := by
  have floor : count ≤ ⌊value⌋ := Int.le_floor.mpr below
  unfold roundHalfEven
  dsimp only
  split
  · exact floor
  split
  · omega
  split
  · exact floor
  · omega

/-- The short form of a duration is `45s` or `3m`. -/
def duration (seconds : Seconds) : String :=
  if seconds < 60 then toString (max 1 (roundHalfEven seconds)) ++ "s"
  else toString (roundHalfEven (seconds / 60)) ++ "m"

def plural (count : ℤ) : String :=
  if count = 1 then toString count ++ " message" else toString count ++ " messages"

/-- The fields that the constructor of the detector receives. -/
structure DetectorConfig where
  deadLetterQueues : List String := []
  workQueues : List String := []
  queueOwners : Dict String (String × String) := Dict.empty
  awaitingMarkerSeconds : Seconds := OperationsConsole.awaitingMarkerSeconds
  capacity : Nat := eventRingSize

/-- A queue is known by its pipeline and its name. -/
abbrev QueueKey := String × String

/-- The memory of the detector between two readings. -/
structure Detector where
  ring : List Event := []
  nextId : Nat := 1
  services : Dict (String × String) Bool := Dict.empty
  platform : Dict String Bool := Dict.empty
  datastores : Dict String Bool := Dict.empty
  available : Dict String Bool := Dict.empty
  dlqDepth : Dict QueueKey ℤ := Dict.empty
  zeroSince : Dict QueueKey Seconds := Dict.empty
  seenAt : Dict QueueKey Seconds := Dict.empty
  conditions : Dict QueueKey (Option ConditionKind) := Dict.empty
  awaitingSince : Dict QueueKey Seconds := Dict.empty
  deriving DecidableEq

/-- A transition found in a reading, before it gets an event number. -/
structure Found where
  level : Level
  kind : String
  subject : String
  message : String
  deriving DecidableEq

/-- A remembered bit makes news only when it is known and differs. -/
def changed (previous : Option Bool) (current : Bool) : Bool := previous = some (!current)

def serviceStep (pipelineId : String) (state : Detector) (service : ServiceStatus) :
    Detector × List Found :=
  let key := (pipelineId, service.name)
  let serving := !isServiceDown service.status
  let previous := state.services.get? key
  let next := { state with services := state.services.set key serving }
  if changed previous serving then
    if serving then
      (next, [⟨.info, "service-recovered", service.name, service.name ++ " is " ++ service.status⟩])
    else
      let level := if service.status = "unhealthy" then Level.error else Level.warning
      (next, [⟨level, "service-down", service.name, service.name ++ " is " ++ service.status⟩])
  else (next, [])

def servicesOf (pipelineId : String) (services : List ServiceStatus) (state : Detector) :
    Detector × List Found :=
  let result := loop (serviceStep pipelineId) state services
  (result.1, result.2.flatten)

def platformStep (state : Detector) (service : PlatformService) : Detector × List Found :=
  if service.source ≠ "probe" then (state, [])
  else if isServiceInactive service.status then
    ({ state with platform := state.platform.erase service.name }, [])
  else
    let serving := !isServiceDown service.status
    let previous := state.platform.get? service.name
    let next := { state with platform := state.platform.set service.name serving }
    if changed previous serving then
      if serving then
        (next, [⟨.info, "service-recovered", service.name, service.name ++ " is " ++ service.status⟩])
      else
        let level := if service.group = "observability" then Level.warning else Level.error
        (next, [⟨level, "service-down", service.name, service.name ++ " is " ++ service.status⟩])
    else (next, [])

def platformOf (platform : List PlatformService) (state : Detector) : Detector × List Found :=
  let result := loop platformStep state platform
  (result.1, result.2.flatten)

def datastoreStep (state : Detector) (database : DatabaseInfo) : Detector × List Found :=
  let up : Bool := database.status = "healthy"
  let previous := state.datastores.get? database.name
  let next := { state with datastores := state.datastores.set database.name up }
  if changed previous up then
    if up then (next, [⟨.info, "datastore-up", database.name, database.name ++ " is up"⟩])
    else (next, [⟨.error, "datastore-down", database.name, database.name ++ " is down"⟩])
  else (next, [])

def datastoresOf (databases : List DatabaseInfo) (state : Detector) : Detector × List Found :=
  let result := loop datastoreStep state databases
  (result.1, result.2.flatten)

def deadLetterStep (config : DetectorConfig) (pipelineId : String) (state : Detector)
    (queue : QueueInfo) : Detector × List Found :=
  if queue.name ∉ config.deadLetterQueues then (state, [])
  else
    let key := (pipelineId, queue.name)
    let next := { state with dlqDepth := state.dlqDepth.set key queue.messages }
    match state.dlqDepth.get? key with
    | none => (next, [])
    | some before =>
        if before = queue.messages then (next, [])
        else if before < queue.messages then
          (next, [⟨.error, "dlq-grew", queue.name, queue.name ++ " grew by " ++
            plural (queue.messages - before) ++ " to " ++ toString queue.messages⟩])
        else if queue.messages = 0 then
          (next, [⟨.info, "dlq-emptied", queue.name, queue.name ++ " emptied"⟩])
        else (next, [])

/-- The broker announces that a pipeline's queue metrics came back or were lost. -/
def availabilityFound (pipelineId : String) (previous : Option Bool) (available : Bool) :
    List Found :=
  if changed previous available then
    if available then
      [⟨.info, "queues-available", pipelineId, pipelineId ++ ": queue metrics are available again"⟩]
    else [⟨.warning, "queues-unavailable", pipelineId, pipelineId ++ ": queue metrics unavailable"⟩]
  else []

def brokerOf (config : DetectorConfig) (pipelineId : String) (pipeline : PipelineMetrics)
    (state : Detector) : Detector × List Found :=
  let previous := state.available.get? pipelineId
  let next := { state with available := state.available.set pipelineId pipeline.queuesAvailable }
  let announced := availabilityFound pipelineId previous pipeline.queuesAvailable
  if pipeline.queuesAvailable then
    let result := loop (deadLetterStep config pipelineId) next pipeline.queues
    (result.1, announced ++ result.2.flatten)
  else
    ({ next with dlqDepth := next.dlqDepth.filter fun key _ => key.1 ≠ pipelineId }, announced)

/-- The consuming service answered and lists the type of a queue with a backlog and no consumer. -/
def listedAsAwaiting (config : DetectorConfig) (pipeline : PipelineMetrics) (queue : QueueInfo) :
    Bool :=
  match config.queueOwners.get? queue.name with
  | none => false
  | some owner =>
      if 0 < queue.messages ∧ queue.consumers = 0 then
        match (pipeline.services.find? fun service => service.name = owner.1).bind
            ServiceStatus.awaitingExtractionComplete with
        | none => false
        | some awaiting => awaiting.contains owner.2
      else false

/-- The wait starts at the first reading of a listed run and is absent otherwise. -/
def awaitingMarkerFor (config : DetectorConfig) (pipeline : PipelineMetrics) (pipelineId : String)
    (queue : QueueInfo) (now : Seconds) (awaitingSince : Dict QueueKey Seconds) :
    Dict QueueKey Seconds × Option Seconds :=
  let key := (pipelineId, queue.name)
  if listedAsAwaiting config pipeline queue then
    (awaitingSince.setDefault key now, some (now - (awaitingSince.get? key).getD now))
  else (awaitingSince.erase key, none)

def conditionOf (queue : QueueInfo) (zeroSeconds : Seconds) (awaitingSeconds : Option Seconds)
    (awaitingBound : Seconds) : Option QueueCondition :=
  if 0 < queue.messages ∧ queue.consumers = 0 then
    match awaitingSeconds with
    | none => some ⟨.noConsumer, "NO CONSUMER"⟩
    | some seconds =>
        if seconds < awaitingBound then some ⟨.awaitingMarker, "awaiting extraction_complete"⟩
        else some ⟨.noConsumer, "NO CONSUMER · marker waiting " ++ duration seconds⟩
  else if 0 < queue.messages ∧ 0 < queue.consumers ∧ stallSeconds ≤ zeroSeconds then
    let span := if stallLabelCapSeconds ≤ zeroSeconds then duration stallLabelCapSeconds ++ "+"
      else duration zeroSeconds
    some ⟨.stalled, "STALLED · no acks " ++ span⟩
  else none

/-- The remembered kind is absent while the queue is healthy or waits for its marker. -/
def rememberedKind : Option QueueCondition → Option ConditionKind
  | none => none
  | some condition => if condition.kind = .awaitingMarker then none else some condition.kind

/-- This is the text of a kind inside an event kind. An absent kind prints as `None`. -/
def kindText : Option ConditionKind → String
  | none => "None"
  | some kind => kind.text

/-- A zero-ack reading has a backlog and a computed zero ack rate. -/
def QueueInfo.zeroAck (queue : QueueInfo) : Bool := 0 < queue.messages ∧ queue.ackRate = some 0

/-- A queue announces its condition when its remembered kind is known and changes. -/
def announcement (known : Option (Option ConditionKind)) (condition : Option QueueCondition)
    (queue : QueueInfo) : List Found :=
  let kind := rememberedKind condition
  if known = none ∨ known = some kind then []
  else match condition with
    | some condition =>
        [⟨.error, "queue-" ++ kindText kind, queue.name, queue.name ++ ": " ++ condition.label⟩]
    | none =>
        [⟨.info, "queue-recovered", queue.name,
          queue.name ++ " is " ++ if queue.messages = 0 then "drained" else "flowing"⟩]

/-- The reading of one queue with its condition set, and the events it produced. -/
structure QueueOutcome where
  queue : QueueInfo
  found : List Found
  deriving DecidableEq

def workQueueStep (config : DetectorConfig) (pipelineId : String) (pipeline : PipelineMetrics)
    (now : Seconds) (state : Detector) (queue : QueueInfo) : Detector × QueueOutcome :=
  if queue.name ∉ config.workQueues then (state, ⟨queue, []⟩)
  else
    let key := (pipelineId, queue.name)
    let gap := (state.seenAt.get? key).any fun last => gapSeconds < now - last
    let continued := if gap then state.zeroSince.erase key else state.zeroSince
    let zeroSince := if queue.zeroAck then continued.setDefault key now else continued.erase key
    let awaiting := awaitingMarkerFor config pipeline pipelineId queue now state.awaitingSince
    let zeroSeconds := ((zeroSince.get? key).map fun since => now - since).getD 0
    let condition := conditionOf queue zeroSeconds awaiting.2 config.awaitingMarkerSeconds
    let kind := rememberedKind condition
    let known := state.conditions.get? key
    let next := { state with
      seenAt := state.seenAt.set key now
      zeroSince := zeroSince
      awaitingSince := awaiting.1
      conditions := state.conditions.set key kind }
    (next, ⟨{ queue with condition := condition }, announcement known condition queue⟩)

/-- A failed scrape forgets every work queue of the pipeline. -/
def forgetWorkQueues (pipelineId : String) (state : Detector) : Detector :=
  { state with
    zeroSince := state.zeroSince.filter fun key _ => key.1 ≠ pipelineId
    seenAt := state.seenAt.filter fun key _ => key.1 ≠ pipelineId
    conditions := state.conditions.filter fun key _ => key.1 ≠ pipelineId
    awaitingSince := state.awaitingSince.filter fun key _ => key.1 ≠ pipelineId }

/-- The result of one pipeline, under its id. -/
structure PipelineOutcome where
  id : String
  pipeline : PipelineMetrics
  found : List Found

def workQueuesOf (config : DetectorConfig) (pipelineId : String) (pipeline : PipelineMetrics)
    (now : Seconds) (state : Detector) : Detector × PipelineOutcome :=
  if pipeline.queuesAvailable then
    let result := loop (workQueueStep config pipelineId pipeline now) state pipeline.queues
    (result.1, ⟨pipelineId, { pipeline with queues := result.2.map QueueOutcome.queue },
      (result.2.map QueueOutcome.found).flatten⟩)
  else (forgetWorkQueues pipelineId state, ⟨pipelineId, pipeline, []⟩)

/-- This state reaches the work queues of a pipeline. -/
def beforeWorkQueues (config : DetectorConfig) (state : Detector)
    (item : String × PipelineMetrics) : Detector × List Found :=
  let services := servicesOf item.1 item.2.services state
  let broker := brokerOf config item.1 item.2 services.1
  (broker.1, services.2 ++ broker.2)

def pipelineStep (config : DetectorConfig) (now : Seconds) (state : Detector)
    (item : String × PipelineMetrics) : Detector × PipelineOutcome :=
  let before := beforeWorkQueues config state item
  let result := workQueuesOf config item.1 item.2 now before.1
  (result.1, { result.2 with found := before.2 ++ result.2.found })

/-- A bounded append drops the oldest events first. -/
def appendEvent (capacity : Nat) (ring : List Event) (event : Event) : List Event :=
  let longer := ring ++ [event]
  longer.drop (longer.length - capacity)

def recordStep (config : DetectorConfig) (stamp : Seconds) (state : Detector) (found : Found) :
    Detector × Event :=
  let event : Event :=
    ⟨state.nextId, stamp, found.level, found.kind, found.subject, found.message⟩
  ({ state with nextId := state.nextId + 1, ring := appendEvent config.capacity state.ring event },
    event)

/-- One reading leaves a state, its events, and the reading with the conditions set. -/
structure Observation where
  state : Detector
  events : List Event
  metrics : SystemMetrics

theorem pipelineStep_id (config : DetectorConfig) (now : Seconds) (state : Detector)
    (item : String × PipelineMetrics) : (pipelineStep config now state item).2.id = item.1 := by
  simp only [pipelineStep, workQueuesOf]
  split <;> rfl

/-- The pipelines of a reading after the detector visited them. -/
def observedPipelines (config : DetectorConfig) (state : Detector) (metrics : SystemMetrics) :
    Dict String PipelineMetrics where
  items := (loop (pipelineStep config metrics.timestamp) state metrics.pipelines.items).2.map
    fun outcome => (outcome.id, outcome.pipeline)
  nodup := by
    rw [List.map_map]
    have keys := loop_keys (pipelineStep config metrics.timestamp) Prod.fst PipelineOutcome.id state
      metrics.pipelines.items (pipelineStep_id config metrics.timestamp)
    change (List.map PipelineOutcome.id _).Nodup
    rw [keys]
    exact metrics.pipelines.nodup

/-- The transitions of one reading come from its pipelines, its platform, and its datastores. -/
def detect (config : DetectorConfig) (state : Detector) (metrics : SystemMetrics) :
    Detector × List Found :=
  let pipelines := loop (pipelineStep config metrics.timestamp) state metrics.pipelines.items
  let platform := platformOf metrics.platform pipelines.1
  let datastores := datastoresOf metrics.databases platform.1
  (datastores.1, (pipelines.2.map PipelineOutcome.found).flatten ++ platform.2 ++ datastores.2)

def observe (config : DetectorConfig) (state : Detector) (metrics : SystemMetrics) : Observation :=
  let detected := detect config state metrics
  let recorded := loop (recordStep config metrics.timestamp) detected.1 detected.2
  ⟨recorded.1, recorded.2, { metrics with pipelines := observedPipelines config state metrics }⟩

section Fields

variable (config : DetectorConfig) (pipelineId : String) (pipeline : PipelineMetrics)
variable (now : Seconds) (state : Detector)

/-- The loop over the services remembers only the services. -/
theorem serviceStep_state (service : ServiceStatus) :
    ∃ services, (serviceStep pipelineId state service).1 = { state with services := services } := by
  unfold serviceStep
  dsimp only
  split
  · split <;> exact ⟨_, rfl⟩
  · exact ⟨_, rfl⟩

theorem platformStep_state (service : PlatformService) :
    ∃ platform, (platformStep state service).1 = { state with platform := platform } := by
  unfold platformStep
  split
  · exact ⟨state.platform, rfl⟩
  split
  · exact ⟨_, rfl⟩
  dsimp only
  split
  · split <;> exact ⟨_, rfl⟩
  · exact ⟨_, rfl⟩

theorem datastoreStep_state (database : DatabaseInfo) :
    ∃ datastores, (datastoreStep state database).1 = { state with datastores := datastores } := by
  unfold datastoreStep
  dsimp only
  split
  · split <;> exact ⟨_, rfl⟩
  · exact ⟨_, rfl⟩

theorem deadLetterStep_state (queue : QueueInfo) :
    ∃ depth, (deadLetterStep config pipelineId state queue).1 = { state with dlqDepth := depth } := by
  unfold deadLetterStep
  split
  · exact ⟨state.dlqDepth, rfl⟩
  dsimp only
  split
  · exact ⟨_, rfl⟩
  split
  · exact ⟨_, rfl⟩
  split
  · exact ⟨_, rfl⟩
  split <;> exact ⟨_, rfl⟩

/-- The loop over the work queues remembers only four facts of each queue. -/
theorem workQueueStep_state (queue : QueueInfo) :
    ∃ seen zero waiting conditions, (workQueueStep config pipelineId pipeline now state queue).1 =
      { state with
        seenAt := seen
        zeroSince := zero
        awaitingSince := waiting
        conditions := conditions } := by
  unfold workQueueStep
  split
  · exact ⟨state.seenAt, state.zeroSince, state.awaitingSince, state.conditions, rfl⟩
  · exact ⟨_, _, _, _, rfl⟩

end Fields

def Detector.backlog (state : Detector) : List Event := state.ring

/-- A run of the detector feeds it the readings of a history, the newest first. -/
def detectorAfter (config : DetectorConfig) (history : List SystemMetrics) : Detector :=
  after (fun state metrics => (observe config state metrics).state) {} history

end OperationsConsole
