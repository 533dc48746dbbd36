/-
This file proves that a reading observed twice announces nothing the second time.
It needs every name of the reading only once, since the detector remembers one fact per name.
-/

import OperationsConsole.Events.QueueNews

namespace OperationsConsole

open Library

/-- The news of a bit that was remembered before, as the services and the platform announce it. -/
def serviceFound (previous : Option Bool) (service : ServiceStatus) : List Found :=
  let serving := !isServiceDown service.status
  if changed previous serving then
    if serving then
      [⟨.info, "service-recovered", service.name, service.name ++ " is " ++ service.status⟩]
    else
      let level := if service.status = "unhealthy" then Level.error else Level.warning
      [⟨level, "service-down", service.name, service.name ++ " is " ++ service.status⟩]
  else []

def platformFound (previous : Option Bool) (service : PlatformService) : List Found :=
  if service.source ≠ "probe" ∨ isServiceInactive service.status then []
  else
    let serving := !isServiceDown service.status
    if changed previous serving then
      if serving then
        [⟨.info, "service-recovered", service.name, service.name ++ " is " ++ service.status⟩]
      else
        let level := if service.group = "observability" then Level.warning else Level.error
        [⟨level, "service-down", service.name, service.name ++ " is " ++ service.status⟩]
    else []

def datastoreFound (previous : Option Bool) (database : DatabaseInfo) : List Found :=
  let up : Bool := database.status = "healthy"
  if changed previous up then
    if up then [⟨.info, "datastore-up", database.name, database.name ++ " is up"⟩]
    else [⟨.error, "datastore-down", database.name, database.name ++ " is down"⟩]
  else []

/-- A bit that is already remembered is no news. -/
theorem changed_same (current : Bool) : changed (some current) current = false := by
  cases current <;> rfl

/-- The same state of a service is no news. -/
theorem serviceFound_same (service : ServiceStatus) :
    serviceFound (some (!isServiceDown service.status)) service = [] := by
  simp [serviceFound, changed_same]

/-- The same state of a datastore is no news. -/
theorem datastoreFound_same (database : DatabaseInfo) :
    datastoreFound (some (decide (database.status = "healthy"))) database = [] := by
  simp [datastoreFound, changed_same]

/-- The same state of a platform service is no news. -/
theorem platformFound_same (service : PlatformService) :
    platformFound (if isServiceInactive service.status then none
      else some (!isServiceDown service.status)) service = [] := by
  unfold platformFound
  by_cases inactive : isServiceInactive service.status = true
  · simp [inactive]
  · simp [inactive, changed_same]

/-- The same depth of a dead-letter queue is no news. -/
theorem depthFound_same (queue : QueueInfo) : depthFound (some queue.messages) queue = [] := by
  simp [depthFound]

section Keyed

variable (config : DetectorConfig) (pipelineId : String) (pipeline : PipelineMetrics)
variable (now : Seconds)

/-- The loop over the services keeps one memory for each name. -/
theorem serviceStep_keyed : Keyed (serviceStep pipelineId)
    (fun state => (state.pipelineMemory pipelineId).services) ServiceStatus.name (fun _ => true)
    (fun _ service => some (!isServiceDown service.status)) serviceFound := by
  constructor
  · intro state service
    show _ = serviceFound (state.services.get? (pipelineId, service.name)) service
    unfold serviceStep serviceFound
    dsimp only
    split
    · split <;> rfl
    · rfl
  · intro state service other
    rw [serviceStep_pipeline, if_pos rfl]
    simp only [Function.update_apply, true_and]
  · intro service skipped
    simp at skipped

/-- The loop over the dead-letter queues keeps one depth for each name. -/
theorem deadLetterStep_keyed : Keyed (deadLetterStep config pipelineId)
    (fun state => (state.pipelineMemory pipelineId).dlqDepth) QueueInfo.name
    (fun queue => decide (queue.name ∈ config.deadLetterQueues))
    (fun _ queue => some queue.messages)
    (fun before queue => if queue.name ∈ config.deadLetterQueues then depthFound before queue
      else []) := by
  constructor
  · intro state queue
    exact deadLetterStep_found config pipelineId state queue
  · intro state queue other
    rw [deadLetterStep_pipeline]
    by_cases listed : queue.name ∈ config.deadLetterQueues
    · simp [listed, Function.update_apply]
    · simp [listed]
  · intro queue skipped first second
    rw [if_neg (by simpa using skipped), if_neg (by simpa using skipped)]

/-- A queue of the reading, as its own machine shows it. -/
def workOutcome (memory : QueueMemory) (queue : QueueInfo) : QueueOutcome :=
  if queue.name ∈ config.workQueues then
    let condition := memory.conditionAt config.awaitingMarkerSeconds now
      (listedAsAwaiting config pipeline queue) queue
    ⟨{ queue with condition := condition }, announcement memory.condition condition queue⟩
  else ⟨queue, []⟩

/-- The loop over the work queues keeps one memory for each name. -/
theorem workQueueStep_keyed : Keyed (workQueueStep config pipelineId pipeline now)
    (fun state name => state.memory (pipelineId, name)) QueueInfo.name
    (fun queue => decide (queue.name ∈ config.workQueues))
    (fun memory queue => memory.see config.awaitingMarkerSeconds now
      (listedAsAwaiting config pipeline queue) queue)
    (workOutcome config pipeline now) := by
  constructor
  · intro state queue
    unfold workOutcome
    by_cases work : queue.name ∈ config.workQueues
    · rw [if_pos work, workQueueStep_outcome _ _ _ _ _ _ work]
    · rw [if_neg work, workQueueStep_of_other _ _ _ _ _ _ work]
  · intro state queue other
    by_cases own : other = queue.name
    · subst own
      by_cases work : queue.name ∈ config.workQueues
      · rw [workQueueStep_memory _ _ _ _ _ _ _ work, if_pos rfl]
        simp [work]
      · rw [workQueueStep_of_other _ _ _ _ _ _ work]
        simp [work]
    · rw [workQueueStep_memory_other, if_neg fun both => own both.2]
      exact fun equal => own (congrArg Prod.snd equal)
  · intro queue skipped first second
    unfold workOutcome
    rw [if_neg (by simpa using skipped), if_neg (by simpa using skipped)]

/-- The loop over the platform keeps one state for each probed name. -/
theorem platformStep_keyed : Keyed platformStep (fun state => state.platform.get?)
    PlatformService.name (fun service => decide (service.source = "probe"))
    (fun _ service => if isServiceInactive service.status then none
      else some (!isServiceDown service.status)) platformFound := by
  constructor
  · intro state service
    unfold platformStep platformFound
    by_cases probe : service.source = "probe"
    · by_cases inactive : isServiceInactive service.status = true
      · simp [probe, inactive]
      · simp only [probe, inactive, ne_eq, not_true_eq_false, false_or, if_false,
          Bool.false_eq_true]
        split
        · split <;> rfl
        · rfl
    · simp [probe]
  · intro state service other
    unfold platformStep
    by_cases probe : service.source = "probe"
    · by_cases inactive : isServiceInactive service.status = true
      · simp [probe, inactive]
      · simp only [probe, inactive, ne_eq, not_true_eq_false, if_false, Bool.false_eq_true,
          decide_true, true_and]
        split
        · split <;> exact Dict.get?_set _ _ _ _
        · exact Dict.get?_set _ _ _ _
    · simp [probe]
  · intro service skipped first second
    have other : service.source ≠ "probe" := by simpa using skipped
    simp [platformFound, other]

/-- The loop over the datastores keeps one state for each name. -/
theorem datastoreStep_keyed : Keyed datastoreStep (fun state => state.datastores.get?)
    DatabaseInfo.name (fun _ => true)
    (fun _ database => some (decide (database.status = "healthy"))) datastoreFound := by
  constructor
  · intro state database
    unfold datastoreStep datastoreFound
    dsimp only
    split
    · split <;> rfl
    · rfl
  · intro state database other
    unfold datastoreStep
    dsimp only
    simp only [true_and]
    split
    · split <;> exact Dict.get?_set _ _ _ _
    · exact Dict.get?_set _ _ _ _
  · intro database skipped
    simp at skipped

end Keyed

/-- A stopwatch that reads the same sample twice reads it once. -/
theorem watchAt_twice (bound now : Seconds) (listed : Bool) (memory : QueueMemory)
    (queue : QueueInfo) :
    (memory.see bound now listed queue).watchAt now queue = memory.watchAt now queue := by
  have short : ¬ gapSeconds < now - now := by
    rw [sub_self]
    decide +kernel
  unfold QueueMemory.see QueueMemory.watchAt Stopwatch.feed
  simp only [Option.any_some, short, decide_false, Bool.false_eq_true, if_false]
  cases queue.zeroAck <;> simp

/-- A sample that is seen twice has the same condition. -/
theorem conditionAt_twice (bound now : Seconds) (listed : Bool) (memory : QueueMemory)
    (queue : QueueInfo) :
    (memory.see bound now listed queue).conditionAt bound now listed queue =
      memory.conditionAt bound now listed queue := by
  have waiting : (memory.see bound now listed queue).waitingAt now listed =
      memory.waitingAt now listed := by
    unfold QueueMemory.see QueueMemory.waitingAt
    cases listed <;> simp
  unfold QueueMemory.conditionAt
  rw [watchAt_twice, waiting]

/-- A queue that is seen again at the same time shows its condition and announces nothing. -/
theorem workOutcome_twice (config : DetectorConfig) (pipeline : PipelineMetrics) (now : Seconds)
    (memory : QueueMemory) (queue : QueueInfo) :
    workOutcome config pipeline now (memory.see config.awaitingMarkerSeconds now
        (listedAsAwaiting config pipeline queue) queue) queue =
      ⟨(workOutcome config pipeline now memory queue).queue, []⟩ := by
  unfold workOutcome
  split
  · simp only [conditionAt_twice]
    congr 1
    unfold announcement
    simp [QueueMemory.see]
  · rfl

section Frames

variable (config : DetectorConfig) (now : Seconds) (pipelineId : String)
variable (pipeline : PipelineMetrics) (state : Detector)

/-- The services of a pipeline change only what is remembered of the services. -/
theorem servicesOf_rest (services : List ServiceStatus) (other : String) :
    ((servicesOf pipelineId services state).1.pipelineMemory other).available =
        (state.pipelineMemory other).available ∧
      ((servicesOf pipelineId services state).1.pipelineMemory other).dlqDepth =
        (state.pipelineMemory other).dlqDepth := by
  constructor
  · apply loop_frame (serviceStep pipelineId)
      (fun state => (state.pipelineMemory other).available)
    intro state service _
    rw [serviceStep_pipeline]
    split <;> rfl
  · apply loop_frame (serviceStep pipelineId)
      (fun state => (state.pipelineMemory other).dlqDepth)
    intro state service _
    rw [serviceStep_pipeline]
    split <;> rfl

/-- The work queues change only what is remembered of the work queues. -/
theorem workQueuesOf_rest (other : String) :
    ((workQueuesOf config pipelineId pipeline now state).1.pipelineMemory other).services =
        (state.pipelineMemory other).services ∧
      ((workQueuesOf config pipelineId pipeline now state).1.pipelineMemory other).available =
        (state.pipelineMemory other).available ∧
      ((workQueuesOf config pipelineId pipeline now state).1.pipelineMemory other).dlqDepth =
        (state.pipelineMemory other).dlqDepth := by
  unfold workQueuesOf
  split
  · have framed := loop_frame (workQueueStep config pipelineId pipeline now)
      (fun state => ((state.pipelineMemory other).services,
        (state.pipelineMemory other).available, (state.pipelineMemory other).dlqDepth))
      pipeline.queues state
    simp only [Prod.mk.injEq] at framed
    apply framed
    intro state queue _
    rw [workQueueStep_pipeline]
    split <;> exact ⟨rfl, rfl, rfl⟩
  · rw [forgetWorkQueues_pipeline]
    split <;> exact ⟨rfl, rfl, rfl⟩

/-- The broker leaves the services alone and remembers whether the queues are available. -/
theorem brokerOf_rest :
    ((brokerOf config pipelineId pipeline state).1.pipelineMemory pipelineId).services =
        (state.pipelineMemory pipelineId).services ∧
      ((brokerOf config pipelineId pipeline state).1.pipelineMemory pipelineId).available =
        some pipeline.queuesAvailable := by
  rw [brokerOf_eq]
  split
  · have framed := loop_frame (deadLetterStep config pipelineId)
      (fun state => ((state.pipelineMemory pipelineId).services,
        (state.pipelineMemory pipelineId).available)) pipeline.queues
      (noteAvailable pipelineId pipeline.queuesAvailable state)
    simp only [Prod.mk.injEq, noteAvailable_pipeline, if_true] at framed
    apply framed
    intro state queue _
    rw [deadLetterStep_pipeline]
    split <;> exact ⟨rfl, rfl⟩
  · rw [forgetDepths_pipeline, if_pos rfl, noteAvailable_pipeline, if_pos rfl]
    exact ⟨rfl, rfl⟩

end Frames

/-- The watched queues of a pipeline have distinct names. -/
structure DistinctNames (config : DetectorConfig) (pipeline : PipelineMetrics) : Prop where
  deadLetters : ((pipeline.queues.filter fun queue =>
    queue.name ∈ config.deadLetterQueues).map QueueInfo.name).Nodup
  work : ((pipeline.queues.filter fun queue =>
    queue.name ∈ config.workQueues).map QueueInfo.name).Nodup

section Again

variable (config : DetectorConfig) (now : Seconds) (pipelineId : String)
variable (pipeline : PipelineMetrics) (state later : Detector)

/-- The same services give no news again. -/
theorem servicesOf_again (services : List ServiceStatus)
    (unique : (services.map ServiceStatus.name).Nodup)
    (kept : (later.pipelineMemory pipelineId).services =
      ((servicesOf pipelineId services state).1.pipelineMemory pipelineId).services) :
    (servicesOf pipelineId services later).2 = [] := by
  have quiet := (serviceStep_keyed pipelineId).repeated services state later
    (by simpa using unique) (congrFun kept)
  unfold servicesOf
  dsimp only
  rw [quiet, List.flatten_eq_nil_iff]
  intro founds member
  obtain ⟨service, _, same⟩ := List.mem_map.mp member
  rw [← same]
  exact serviceFound_same service

/-- The same dead-letter queues give no news again. -/
theorem brokerOf_again
    (unique : pipeline.queuesAvailable = true → DistinctNames config pipeline)
    (available : (later.pipelineMemory pipelineId).available = some pipeline.queuesAvailable)
    (kept : (later.pipelineMemory pipelineId).dlqDepth =
      ((brokerOf config pipelineId pipeline state).1.pipelineMemory pipelineId).dlqDepth) :
    (brokerOf config pipelineId pipeline later).2 = [] := by
  have known : later.available.get? pipelineId = some pipeline.queuesAvailable := available
  have announced : availabilityFound pipelineId (later.available.get? pipelineId)
      pipeline.queuesAvailable = [] := by
    rw [known, availabilityFound, changed_same]
    rfl
  rw [brokerOf_eq] at kept ⊢
  rw [announced]
  split
  · rename_i scraped
    rw [if_pos scraped] at kept
    have noted : ((noteAvailable pipelineId pipeline.queuesAvailable later).pipelineMemory
        pipelineId).dlqDepth = (later.pipelineMemory pipelineId).dlqDepth := by
      rw [noteAvailable_pipeline, if_pos rfl]
    have quiet := (deadLetterStep_keyed config pipelineId).repeated pipeline.queues
      (noteAvailable pipelineId pipeline.queuesAvailable state)
      (noteAvailable pipelineId pipeline.queuesAvailable later) (unique scraped).deadLetters
      (congrFun (noted.trans kept))
    dsimp only
    rw [quiet, List.nil_append, List.flatten_eq_nil_iff]
    intro founds member
    obtain ⟨queue, _, same⟩ := List.mem_map.mp member
    rw [← same, depthFound_same, ite_self]
  · rfl

/-- The same work queues give no news and the same conditions again. -/
theorem workQueuesOf_again
    (unique : pipeline.queuesAvailable = true → DistinctNames config pipeline)
    (kept : ∀ name, later.memory (pipelineId, name) =
      (workQueuesOf config pipelineId pipeline now state).1.memory (pipelineId, name)) :
    (workQueuesOf config pipelineId pipeline now later).2.found = [] ∧
      (workQueuesOf config pipelineId pipeline now later).2.pipeline =
        (workQueuesOf config pipelineId pipeline now state).2.pipeline := by
  unfold workQueuesOf at kept ⊢
  split
  · rename_i scraped
    rw [if_pos scraped] at kept
    have keyed := workQueueStep_keyed config pipelineId pipeline now
    have first := keyed.results pipeline.queues state (unique scraped).work
    have again := keyed.repeated pipeline.queues state later (unique scraped).work kept
    dsimp only
    rw [first, again]
    simp only [workOutcome_twice, List.map_map]
    constructor
    · rw [List.flatten_eq_nil_iff]
      intro founds member
      obtain ⟨queue, _, same⟩ := List.mem_map.mp member
      exact same.symm
    · rfl
  · exact ⟨rfl, rfl⟩

/-- A pipeline that is read twice announces nothing the second time and sets the same conditions. -/
theorem pipelineStep_again (services : (pipeline.services.map ServiceStatus.name).Nodup)
    (unique : pipeline.queuesAvailable = true → DistinctNames config pipeline) :
    let first := pipelineStep config now state (pipelineId, pipeline)
    let again := pipelineStep config now first.1 (pipelineId, pipeline)
    again.2.found = [] ∧ again.2.pipeline = first.2.pipeline := by
  intro first again
  let served := (servicesOf pipelineId pipeline.services state).1
  let scraped := (brokerOf config pipelineId pipeline served).1
  let servedAgain := (servicesOf pipelineId pipeline.services first.1).1
  obtain ⟨same, available, depths⟩ := workQueuesOf_rest config now pipelineId pipeline scraped
    pipelineId
  obtain ⟨broker, noted⟩ := brokerOf_rest config pipelineId pipeline served
  obtain ⟨stillAvailable, stillDepths⟩ := servicesOf_rest pipelineId first.1 pipeline.services
    pipelineId
  have quietServices := servicesOf_again pipelineId state first.1 pipeline.services services
    (same.trans broker)
  have quietBroker := brokerOf_again config pipelineId pipeline served servedAgain unique
    (stillAvailable.trans (available.trans noted)) (stillDepths.trans depths)
  have memory : ∀ name, (brokerOf config pipelineId pipeline servedAgain).1.memory
      (pipelineId, name) = first.1.memory (pipelineId, name) := fun name =>
    beforeWorkQueues_memory config first.1 (pipelineId, pipeline) (pipelineId, name)
  have quietWork := workQueuesOf_again config now pipelineId pipeline scraped
    (brokerOf config pipelineId pipeline servedAgain).1 unique memory
  constructor
  · show (servicesOf pipelineId pipeline.services first.1).2 ++
      (brokerOf config pipelineId pipeline servedAgain).2 ++ _ = []
    rw [quietServices, quietBroker]
    exact quietWork.1
  · exact quietWork.2

end Again

section Reading

variable (config : DetectorConfig) (state : Detector) (metrics : SystemMetrics)

/-- The passes of the pipelines remember nothing of the platform and of the datastores. -/
theorem pipelineStep_platform (now : Seconds) (item : String × PipelineMetrics) :
    (pipelineStep config now state item).1.platform = state.platform ∧
      (pipelineStep config now state item).1.datastores = state.datastores := by
  have services := loop_frame (serviceStep item.1)
    (fun state => (state.platform, state.datastores)) item.2.services state
    fun state service _ => by
      obtain ⟨services, next⟩ := serviceStep_state item.1 state service
      rw [next]
  have broker : ∀ state, ((brokerOf config item.1 item.2 state).1.platform,
      (brokerOf config item.1 item.2 state).1.datastores) = (state.platform, state.datastores) := by
    intro state
    rw [brokerOf_eq]
    split
    · apply loop_frame (deadLetterStep config item.1)
        (fun state => (state.platform, state.datastores))
      intro state queue _
      obtain ⟨depth, next⟩ := deadLetterStep_state config item.1 state queue
      rw [next]
    · rfl
  have work : ∀ state, ((workQueuesOf config item.1 item.2 now state).1.platform,
      (workQueuesOf config item.1 item.2 now state).1.datastores) =
        (state.platform, state.datastores) := by
    intro state
    unfold workQueuesOf
    split
    · apply loop_frame (workQueueStep config item.1 item.2 now)
        (fun state => (state.platform, state.datastores))
      intro state queue _
      obtain ⟨seen, zero, waiting, conditions, next⟩ :=
        workQueueStep_state config item.1 item.2 now state queue
      rw [next]
    · rfl
  exact Prod.mk.injEq _ _ _ _ ▸ ((work _).trans ((broker _).trans services))

/-- The loop over the pipelines leaves the platform and the datastores. -/
theorem pipelines_platform (now : Seconds) (items : List (String × PipelineMetrics)) :
    (loop (pipelineStep config now) state items).1.platform = state.platform ∧
      (loop (pipelineStep config now) state items).1.datastores = state.datastores := by
  have framed := loop_frame (pipelineStep config now)
    (fun state => (state.platform, state.datastores)) items state fun state item _ =>
      Prod.ext (pipelineStep_platform config state now item).1
        (pipelineStep_platform config state now item).2
  exact ⟨congrArg Prod.fst framed, congrArg Prod.snd framed⟩

theorem platformOf_datastores (services : List PlatformService) :
    (platformOf services state).1.datastores = state.datastores := by
  apply loop_frame platformStep Detector.datastores
  intro state service _
  obtain ⟨platform, next⟩ := platformStep_state state service
  rw [next]

theorem datastoresOf_platform (databases : List DatabaseInfo) :
    (datastoresOf databases state).1.platform = state.platform := by
  apply loop_frame datastoreStep Detector.platform
  intro state database _
  obtain ⟨datastores, next⟩ := datastoreStep_state state database
  rw [next]

/-- An outcome of a reading is that of the pass of its pipeline alone. -/
theorem mem_pipelineOutcomes (outcome : PipelineOutcome)
    (member : outcome ∈ pipelineOutcomes config state metrics) :
    ∃ pipelineId pipeline, metrics.pipelines.get? pipelineId = some pipeline ∧
      outcome = (pipelineStep config metrics.timestamp state (pipelineId, pipeline)).2 := by
  unfold pipelineOutcomes at member
  rw [mem_loop_results] at member
  obtain ⟨⟨reached, pipelineId, pipeline⟩, visited, same⟩ := member
  rw [mem_visits_iff] at visited
  obtain ⟨before, rest, items, arrived⟩ := visited
  have listed : (pipelineId, pipeline) ∈ metrics.pipelines.items := by
    rw [items]
    simp
  have unique := metrics.pipelines.nodup
  rw [items, List.map_append, List.map_cons, List.nodup_append] at unique
  have first : pipelineId ∉ before.map Prod.fst := fun inside =>
    unique.2.2 pipelineId inside pipelineId List.mem_cons_self rfl
  have view : reached.pipelineMemory pipelineId = state.pipelineMemory pipelineId := by
    dsimp only at arrived
    rw [arrived]
    exact otherPasses_pipelineMemory config state metrics pipelineId before first
  refine ⟨pipelineId, pipeline, (Dict.get?_eq_some_iff _ _ _).mpr listed, ?_⟩
  rw [← same]
  exact (pipelineStep_determined config metrics.timestamp pipelineId pipeline _ _ view).1

/-- Every name of a reading stands for one subject. -/
structure DistinctReading : Prop where
  services : ∀ pipelineId pipeline, metrics.pipelines.get? pipelineId = some pipeline →
    (pipeline.services.map ServiceStatus.name).Nodup
  queues : ∀ pipelineId pipeline, metrics.pipelines.get? pipelineId = some pipeline →
    pipeline.queuesAvailable = true → DistinctNames config pipeline
  platform : ((metrics.platform.filter fun service => service.source = "probe").map
    PlatformService.name).Nodup
  datastores : (metrics.databases.map DatabaseInfo.name).Nodup

/-- The same platform gives no news again. -/
theorem platformOf_again (services : List PlatformService) (reached later : Detector)
    (unique : ((services.filter fun service => service.source = "probe").map
      PlatformService.name).Nodup)
    (kept : later.platform = (platformOf services reached).1.platform) :
    (platformOf services later).2 = [] := by
  have quiet := platformStep_keyed.repeated services reached later unique
    fun other => congrArg (fun dict => Dict.get? dict other) kept
  unfold platformOf
  dsimp only
  rw [quiet, List.flatten_eq_nil_iff]
  intro founds member
  obtain ⟨service, _, same⟩ := List.mem_map.mp member
  rw [← same]
  exact platformFound_same service

/-- The same datastores give no news again. -/
theorem datastoresOf_again (databases : List DatabaseInfo) (reached later : Detector)
    (unique : (databases.map DatabaseInfo.name).Nodup)
    (kept : later.datastores = (datastoresOf databases reached).1.datastores) :
    (datastoresOf databases later).2 = [] := by
  have quiet := datastoreStep_keyed.repeated databases reached later (by simpa using unique)
    fun other => congrArg (fun dict => Dict.get? dict other) kept
  unfold datastoresOf
  dsimp only
  rw [quiet, List.flatten_eq_nil_iff]
  intro founds member
  obtain ⟨database, _, same⟩ := List.mem_map.mp member
  rw [← same]
  exact datastoreFound_same database

section Equal

variable (distinct : DistinctReading config metrics)

include distinct

/-- A pipeline announces nothing in an equal reading, and its conditions are the same. -/
theorem ownPass_again (pipelineId : String) (pipeline : PipelineMetrics)
    (listed : metrics.pipelines.get? pipelineId = some pipeline) :
    let first := (observe config state metrics).state
    (pipelineStep config metrics.timestamp first (pipelineId, pipeline)).2.found = [] ∧
      (pipelineStep config metrics.timestamp first (pipelineId, pipeline)).2.pipeline =
        (pipelineStep config metrics.timestamp state (pipelineId, pipeline)).2.pipeline := by
  intro first
  have view := (own_pass config state metrics pipelineId pipeline listed).2
  rw [(pipelineStep_determined config metrics.timestamp pipelineId pipeline _ _ view).1]
  exact pipelineStep_again config metrics.timestamp pipelineId pipeline state
    (distinct.services pipelineId pipeline listed) (distinct.queues pipelineId pipeline listed)

/-- The same reading gives no news of a pipeline again. -/
theorem pipelineOutcomes_again :
    ((pipelineOutcomes config (observe config state metrics).state metrics).map
      PipelineOutcome.found).flatten = [] := by
  rw [List.flatten_eq_nil_iff]
  intro founds member
  obtain ⟨outcome, inside, same⟩ := List.mem_map.mp member
  obtain ⟨pipelineId, pipeline, listed, alone⟩ :=
    mem_pipelineOutcomes config _ metrics outcome inside
  rw [← same, alone]
  exact (ownPass_again config state metrics distinct pipelineId pipeline listed).1

/-- No part of the detection finds news in an equal reading. -/
theorem detect_again : (detect config (observe config state metrics).state metrics).2 = [] := by
  let first := (observe config state metrics).state
  let reached := (loop (pipelineStep config metrics.timestamp) state metrics.pipelines.items).1
  let probed := (platformOf metrics.platform reached).1
  let later := (loop (pipelineStep config metrics.timestamp) first metrics.pipelines.items).1
  have recorded : (first.platform, first.datastores) =
      ((datastoresOf metrics.databases probed).1.platform,
        (datastoresOf metrics.databases probed).1.datastores) :=
    loop_frame (recordStep config metrics.timestamp)
      (fun state => (state.platform, state.datastores)) _ _ fun _ _ _ => rfl
  have untouched := pipelines_platform config first metrics.timestamp metrics.pipelines.items
  have platform : later.platform = probed.platform :=
    untouched.1.trans
      ((congrArg Prod.fst recorded).trans (datastoresOf_platform probed metrics.databases))
  have datastores : (platformOf metrics.platform later).1.datastores =
      (datastoresOf metrics.databases probed).1.datastores :=
    (platformOf_datastores later metrics.platform).trans
      (untouched.2.trans (congrArg Prod.snd recorded))
  show ((pipelineOutcomes config first metrics).map PipelineOutcome.found).flatten ++
    (platformOf metrics.platform later).2 ++
      (datastoresOf metrics.databases (platformOf metrics.platform later).1).2 = []
  rw [pipelineOutcomes_again config state metrics distinct,
    platformOf_again metrics.platform reached later distinct.platform platform,
    datastoresOf_again metrics.databases probed _ distinct.datastores datastores]
  rfl

/-- An equal reading announces nothing and sets the same conditions. -/
theorem observe_again :
    let first := observe config state metrics
    let again := observe config first.state metrics
    again.events = [] ∧
      ∀ pipelineId, again.metrics.pipelines.get? pipelineId =
        first.metrics.pipelines.get? pipelineId := by
  intro first again
  constructor
  · have content := observe_events_content config first.state metrics
    rw [detect_again config state metrics distinct, List.map_nil, List.map_eq_nil_iff] at content
    exact content
  · intro pipelineId
    show (observe config first.state metrics).metrics.pipelines.get? pipelineId =
      (observe config state metrics).metrics.pipelines.get? pipelineId
    rw [observed_pipeline, observed_pipeline]
    cases listed : metrics.pipelines.get? pipelineId with
    | none => rfl
    | some pipeline =>
        simp only [Option.map_some]
        rw [(ownPass_again config state metrics distinct pipelineId pipeline listed).2]

end Equal

end Reading

/-- A name that a reading lists once is listed once by the scrape of each of its pipelines. -/
theorem distinctNames_of_listedOnce (watched : List String) (metrics : SystemMetrics)
    (once : ListedOnce watched metrics) (pipelineId : String) (pipeline : PipelineMetrics)
    (listed : metrics.pipelines.get? pipelineId = some pipeline)
    (scraped : pipeline.queuesAvailable = true) :
    ((pipeline.queues.filter fun queue => queue.name ∈ watched).map QueueInfo.name).Nodup := by
  apply List.Nodup.sublist _ once
  apply List.Sublist.map
  apply List.Sublist.filter
  rw [Dict.get?_eq_some_iff] at listed
  obtain ⟨before, rest, items⟩ := List.append_of_mem listed
  unfold scrapedQueues
  rw [items, List.flatMap_append, List.flatMap_cons]
  simp only [scraped, if_true]
  exact (List.sublist_append_left _ _).trans (List.sublist_append_right _ _)

end OperationsConsole
