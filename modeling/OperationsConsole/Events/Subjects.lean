/-
This file names the subjects whose up and down transitions the detector announces.
Each subject has one remembered bit, and a reading sights it or leaves the bit alone.
-/

import OperationsConsole.Events.Repetition
import OperationsConsole.Library.Transition

namespace OperationsConsole

open Library

/-- A subject is a service of a pipeline, a probed platform service, or a datastore. -/
inductive Subject where
  | service (pipelineId name : String)
  | platform (name : String)
  | datastore (name : String)
  deriving DecidableEq

def Subject.name : Subject → String
  | .service _ name => name
  | .platform name => name
  | .datastore name => name

/-- The kind of the event that announces that a subject is up, or that it is down. -/
def Subject.kind : Subject → Bool → String
  | .datastore _, up => if up then "datastore-up" else "datastore-down"
  | _, up => if up then "service-recovered" else "service-down"

/-- These kinds announce the transitions of subjects. -/
def transitionKinds : List String :=
  ["service-down", "service-recovered", "datastore-up", "datastore-down"]

/-- The remembered bit of a subject. -/
def Detector.bitOf (state : Detector) : Subject → Option Bool
  | .service pipelineId name => state.services.get? (pipelineId, name)
  | .platform name => state.platform.get? name
  | .datastore name => state.datastores.get? name

/-- The probed platform services of a reading. -/
def probedServices (platform : List PlatformService) : List PlatformService :=
  platform.filter fun service => service.source = "probe"

/-- A reading shows the bit of a subject, or that a platform service is inactive. It shows nothing
of a subject that it does not list. -/
def Subject.sighting (metrics : SystemMetrics) : Subject → Option (Option Bool)
  | .service pipelineId name =>
      (metrics.pipelines.get? pipelineId).bind fun pipeline =>
        (pipeline.services.find? fun service => service.name = name).map fun service =>
          some (!isServiceDown service.status)
  | .platform name =>
      ((probedServices metrics.platform).find? fun service => service.name = name).map
        fun service => if isServiceInactive service.status then none
          else some (!isServiceDown service.status)
  | .datastore name =>
      (metrics.databases.find? fun database => database.name = name).map fun database =>
        some (decide (database.status = "healthy"))

/-- The sightings of a subject in a history. -/
def Subject.sightings (subject : Subject) (history : List SystemMetrics) : List (Option Bool) :=
  history.filterMap fun metrics => subject.sighting metrics

theorem Subject.sightings_unseen (subject : Subject) (metrics : SystemMetrics)
    (earlier : List SystemMetrics) (unseen : subject.sighting metrics = none) :
    subject.sightings (metrics :: earlier) = subject.sightings earlier :=
  List.filterMap_cons_none unseen

theorem Subject.sightings_seen (subject : Subject) (metrics : SystemMetrics)
    (earlier : List SystemMetrics) (sighting : Option Bool)
    (seen : subject.sighting metrics = some sighting) :
    subject.sightings (metrics :: earlier) = sighting :: subject.sightings earlier :=
  List.filterMap_cons_some seen

/-- The sightings of a history are those of its parts. -/
theorem Subject.sightings_append (subject : Subject) (newer older : List SystemMetrics) :
    subject.sightings (newer ++ older) = subject.sightings newer ++ subject.sightings older :=
  List.filterMap_append

/-- The transitions of a subject that its own method finds in a reading. -/
def subjectFound (state : Detector) (metrics : SystemMetrics) (subject : Subject) : List Found :=
  let found := match subject with
    | .service pipelineId _ => (metrics.pipelines.get? pipelineId).elim [] fun pipeline =>
        (servicesOf pipelineId pipeline.services state).2
    | .platform _ => (platformOf metrics.platform state).2
    | .datastore _ => (datastoresOf metrics.databases state).2
  found.filter fun found => found.subject = subject.name

/-- The names of the services of a pipeline, of the probed platform services, and of the datastores
are distinct. -/
structure DistinctSubjects (metrics : SystemMetrics) : Prop where
  services : ∀ pipelineId pipeline, metrics.pipelines.get? pipelineId = some pipeline →
    (pipeline.services.map ServiceStatus.name).Nodup
  platform : ((probedServices metrics.platform).map PlatformService.name).Nodup
  datastores : (metrics.databases.map DatabaseInfo.name).Nodup

theorem Subject.kind_mem (subject : Subject) (up : Bool) : subject.kind up ∈ transitionKinds := by
  cases subject <;> cases up <;> simp [Subject.kind, transitionKinds]

/-- A subject has two kinds of transitions, one for each direction. -/
theorem Subject.kind_injective (subject : Subject) : Function.Injective subject.kind := by
  intro first second same
  cases subject <;> cases first <;> cases second <;> simp [Subject.kind] at same ⊢

/-- A bit that is known and differs makes one transition with the kind of the new bit. -/
def announces (subject : Subject) (before : Option Bool) (up : Bool) : List (String × String) :=
  if changed before up then [(subject.kind up, subject.name)] else []

/-- A pipeline service announces its change. -/
theorem serviceFound_announces (pipelineId : String) (before : Option Bool)
    (service : ServiceStatus) :
    (serviceFound before service).map (fun found => (found.kind, found.subject)) =
      announces (.service pipelineId service.name) before (!isServiceDown service.status) := by
  unfold serviceFound announces
  dsimp only
  split
  · split
    · rename_i up
      simp [up, Subject.kind, Subject.name]
    · rename_i down
      simp [down, Subject.kind, Subject.name]
  · rfl

/-- A probed platform service announces its change, and every other one nothing. -/
theorem platformFound_announces (before : Option Bool) (service : PlatformService) :
    (platformFound before service).map (fun found => (found.kind, found.subject)) =
      if service.source ≠ "probe" ∨ isServiceInactive service.status then []
      else announces (.platform service.name) before (!isServiceDown service.status) := by
  unfold platformFound announces
  dsimp only
  split
  · rfl
  · split
    · split
      · rename_i up
        simp [up, Subject.kind, Subject.name]
      · rename_i down
        simp [down, Subject.kind, Subject.name]
    · rfl

/-- A datastore announces its change. -/
theorem datastoreFound_announces (before : Option Bool) (database : DatabaseInfo) :
    (datastoreFound before database).map (fun found => (found.kind, found.subject)) =
      announces (.datastore database.name) before (decide (database.status = "healthy")) := by
  unfold datastoreFound announces
  dsimp only
  split
  · split
    · rename_i up
      simp [up, Subject.kind, Subject.name]
    · rename_i down
      simp [down, Subject.kind, Subject.name]
  · rfl

/-- A change is announced exactly if the state before was the other one. -/
theorem mem_announces_iff (subject : Subject) (before : Option Bool) (up : Bool)
    (told : String × String) : told ∈ announces subject before up ↔
      before = some (!up) ∧ told = (subject.kind up, subject.name) := by
  unfold announces changed
  by_cases known : before = some (!up)
  · simp [known]
  · simp [known]

/-- Transitions that are announcements of one subject have its name and a kind of transition. -/
theorem told_of_announces (founds : List Found) (subject : Subject) (before : Option Bool)
    (up : Bool)
    (told : founds.map (fun found => (found.kind, found.subject)) = announces subject before up)
    (found : Found) (member : found ∈ founds) :
    found.subject = subject.name ∧ found.kind ∈ transitionKinds := by
  have listed := List.mem_map_of_mem (f := fun found : Found => (found.kind, found.subject)) member
  rw [told, mem_announces_iff] at listed
  have kind : found.kind = subject.kind up := congrArg Prod.fst listed.2
  exact ⟨congrArg Prod.snd listed.2, kind ▸ subject.kind_mem up⟩

/-- A service tells its own name and a transition. -/
theorem serviceFound_told (before : Option Bool) (service : ServiceStatus) (found : Found)
    (member : found ∈ serviceFound before service) :
    found.subject = service.name ∧ found.kind ∈ transitionKinds :=
  told_of_announces _ _ _ _ (serviceFound_announces "" before service) found member

/-- A datastore tells its own name and a transition. -/
theorem datastoreFound_told (before : Option Bool) (database : DatabaseInfo) (found : Found)
    (member : found ∈ datastoreFound before database) :
    found.subject = database.name ∧ found.kind ∈ transitionKinds :=
  told_of_announces _ _ _ _ (datastoreFound_announces before database) found member

/-- A platform service tells its own name and a transition. -/
theorem platformFound_told (before : Option Bool) (service : PlatformService) (found : Found)
    (member : found ∈ platformFound before service) :
    found.subject = service.name ∧ found.kind ∈ transitionKinds := by
  have told := platformFound_announces before service
  by_cases silent : service.source ≠ "probe" ∨ isServiceInactive service.status = true
  · rw [if_pos silent, List.map_eq_nil_iff] at told
    rw [told] at member
    cases member
  · rw [if_neg silent] at told
    exact told_of_announces _ _ _ _ told found member

/-- A platform service that is not probed tells nothing. -/
theorem platformFound_other (before : Option Bool) (service : PlatformService)
    (other : decide (service.source = "probe") = false) : platformFound before service = [] := by
  unfold platformFound
  rw [if_pos (.inl (of_decide_eq_false other))]

/-- A sighting of a bit announces it against what is remembered, and an absent bit is silent. -/
def sightingAnnounces (subject : Subject) (before : Option Bool) :
    Option (Option Bool) → List (String × String)
  | some (some up) => announces subject before up
  | _ => []

/-- A sighting announces exactly a known state that differs from the one before. -/
theorem mem_sightingAnnounces_iff (subject : Subject) (before : Option Bool)
    (sighting : Option (Option Bool)) (told : String × String) :
    told ∈ sightingAnnounces subject before sighting ↔
      ∃ up, sighting = some (some up) ∧ before = some (!up) ∧
        told = (subject.kind up, subject.name) := by
  unfold sightingAnnounces
  split
  · rw [mem_announces_iff]
    simp
  · rename_i inactive
    constructor
    · intro member
      cases member
    · rintro ⟨up, seen, _⟩
      exact absurd seen (inactive up)

/-- A sighting announces at most one change. -/
theorem sightingAnnounces_length (subject : Subject) (before : Option Bool)
    (sighting : Option (Option Bool)) :
    (sightingAnnounces subject before sighting).length ≤ 1 := by
  unfold sightingAnnounces announces
  split
  · split <;> simp
  · simp

section Step

variable (config : DetectorConfig) (state : Detector) (metrics : SystemMetrics)
variable (distinct : DistinctSubjects metrics)

include distinct

/-- A reading announces of a service what its sighting does. -/
theorem service_announces (pipelineId name : String) :
    (subjectFound state metrics (.service pipelineId name)).map
        (fun found => (found.kind, found.subject)) =
      sightingAnnounces (.service pipelineId name) (state.bitOf (.service pipelineId name))
        (Subject.sighting metrics (.service pipelineId name)) := by
  have shown : subjectFound state metrics (.service pipelineId name) =
      ((metrics.pipelines.get? pipelineId).elim [] fun pipeline =>
        (loop (serviceStep pipelineId) state pipeline.services).2.flatten).filter
          fun found => found.subject = name := rfl
  have seen : Subject.sighting metrics (.service pipelineId name) =
      (metrics.pipelines.get? pipelineId).bind fun pipeline =>
        (pipeline.services.find? fun service => service.name = name).map fun service =>
          some (!isServiceDown service.status) := rfl
  rw [shown, seen]
  cases listed : metrics.pipelines.get? pipelineId with
  | none => rfl
  | some pipeline =>
      have own := (serviceStep_keyed pipelineId).results_of_key Found.subject
        (fun memory item found member => (serviceFound_told memory item found member).1)
        (by simp) pipeline.services state
        (by simpa using distinct.services pipelineId pipeline listed) name
      rw [List.filter_true] at own
      rw [Option.elim_some, own, Option.bind_some]
      cases found : pipeline.services.find? fun service => service.name = name with
      | none => rfl
      | some service =>
          have same : service.name = name := by simpa using List.find?_some found
          exact same ▸ serviceFound_announces pipelineId _ service

/-- A reading announces of a platform service what its sighting does. -/
theorem platform_announces (name : String) :
    (subjectFound state metrics (.platform name)).map (fun found => (found.kind, found.subject)) =
      sightingAnnounces (.platform name) (state.bitOf (.platform name))
        (Subject.sighting metrics (.platform name)) := by
  have shown : subjectFound state metrics (.platform name) =
      (loop platformStep state metrics.platform).2.flatten.filter
        fun found => found.subject = name := rfl
  have seen : Subject.sighting metrics (.platform name) =
      ((metrics.platform.filter fun service => service.source = "probe").find?
        fun service => service.name = name).map fun service =>
          if isServiceInactive service.status then none
          else some (!isServiceDown service.status) := rfl
  have own := platformStep_keyed.results_of_key Found.subject
    (fun memory item found member => (platformFound_told memory item found member).1)
    platformFound_other metrics.platform state distinct.platform name
  rw [shown, seen, own]
  cases found : (metrics.platform.filter fun service => service.source = "probe").find?
      fun service => service.name = name with
  | none => rfl
  | some service =>
      have same : service.name = name := by simpa using List.find?_some found
      have probe : service.source = "probe" := by
        simpa using (List.mem_filter.mp (List.mem_of_find?_eq_some found)).2
      have told := platformFound_announces (state.platform.get? name) service
      rw [same] at told
      refine told.trans ?_
      cases inactive : isServiceInactive service.status with
      | true => simp [sightingAnnounces, inactive]
      | false =>
          rw [if_neg (by simp [probe])]
          simp [sightingAnnounces, inactive, Detector.bitOf]

/-- A reading announces of a datastore what its sighting does. -/
theorem datastore_announces (name : String) :
    (subjectFound state metrics (.datastore name)).map (fun found => (found.kind, found.subject)) =
      sightingAnnounces (.datastore name) (state.bitOf (.datastore name))
        (Subject.sighting metrics (.datastore name)) := by
  have shown : subjectFound state metrics (.datastore name) =
      (loop datastoreStep state metrics.databases).2.flatten.filter
        fun found => found.subject = name := rfl
  have seen : Subject.sighting metrics (.datastore name) =
      (metrics.databases.find? fun database => database.name = name).map fun database =>
        some (decide (database.status = "healthy")) := rfl
  have own := datastoreStep_keyed.results_of_key Found.subject
    (fun memory item found member => (datastoreFound_told memory item found member).1)
    (by simp) metrics.databases state (by simpa using distinct.datastores) name
  rw [List.filter_true] at own
  rw [shown, seen, own]
  cases found : metrics.databases.find? fun database => database.name = name with
  | none => rfl
  | some database =>
      have same : database.name = name := by simpa using List.find?_some found
      exact same ▸ datastoreFound_announces _ database

/-- The transitions of a subject in a reading follow from its bit and its sighting. -/
theorem subjectFound_announces (subject : Subject) :
    (subjectFound state metrics subject).map (fun found => (found.kind, found.subject)) =
      sightingAnnounces subject (state.bitOf subject) (subject.sighting metrics) := by
  cases subject with
  | service pipelineId name => exact service_announces state metrics distinct pipelineId name
  | platform name => exact platform_announces state metrics distinct name
  | datastore name => exact datastore_announces state metrics distinct name

/-- A pipeline leaves the bit of one of its services as its row says. -/
theorem pipelineStep_services (now : Seconds) (pipelineId name : String)
    (pipeline : PipelineMetrics)
    (listed : metrics.pipelines.get? pipelineId = some pipeline) :
    ((pipelineStep config now state (pipelineId, pipeline)).1.pipelineMemory
        pipelineId).services name =
      (Subject.sighting metrics (.service pipelineId name)).getD
        (state.services.get? (pipelineId, name)) := by
  let served := (servicesOf pipelineId pipeline.services state).1
  let scraped := (brokerOf config pipelineId pipeline served).1
  have work := (workQueuesOf_rest config now pipelineId pipeline scraped pipelineId).1
  have broker := (brokerOf_rest config pipelineId pipeline served).1
  have own := (serviceStep_keyed pipelineId).memory_of_key pipeline.services state
    (by simpa using distinct.services pipelineId pipeline listed) name
  rw [List.filter_true] at own
  have seen : Subject.sighting metrics (.service pipelineId name) =
      (metrics.pipelines.get? pipelineId).bind fun pipeline =>
        (pipeline.services.find? fun service => service.name = name).map fun service =>
          some (!isServiceDown service.status) := rfl
  rw [seen, listed, Option.bind_some]
  exact (congrFun (work.trans broker) name).trans own

/-- A reading leaves the bit of a subject as it sights it. -/
theorem observe_bitOf (subject : Subject) : (observe config state metrics).state.bitOf subject =
    (subject.sighting metrics).getD (state.bitOf subject) := by
  let reached := (loop (pipelineStep config metrics.timestamp) state metrics.pipelines.items).1
  let probed := (platformOf metrics.platform reached).1
  have recorded : ((observe config state metrics).state.platform,
      (observe config state metrics).state.datastores) =
        ((datastoresOf metrics.databases probed).1.platform,
          (datastoresOf metrics.databases probed).1.datastores) :=
    loop_frame (recordStep config metrics.timestamp)
      (fun state => (state.platform, state.datastores)) _ _ fun _ _ _ => rfl
  obtain ⟨platform, datastores⟩ := pipelines_platform config state metrics.timestamp
    metrics.pipelines.items
  cases subject with
  | service pipelineId name =>
      show ((observe config state metrics).state.pipelineMemory pipelineId).services name = _
      cases listed : metrics.pipelines.get? pipelineId with
      | none =>
          have seen : Subject.sighting metrics (.service pipelineId name) =
              (metrics.pipelines.get? pipelineId).bind fun pipeline =>
                (pipeline.services.find? fun service => service.name = name).map fun service =>
                  some (!isServiceDown service.status) := rfl
          rw [unlisted_pass config state metrics pipelineId listed, seen, listed]
          rfl
      | some pipeline =>
          rw [(own_pass config state metrics pipelineId pipeline listed).2]
          exact pipelineStep_services config state metrics distinct metrics.timestamp pipelineId
            name pipeline listed
  | platform name =>
      have own := platformStep_keyed.memory_of_key metrics.platform reached distinct.platform name
      show (observe config state metrics).state.platform.get? name = _
      have kept : (observe config state metrics).state.platform = probed.platform :=
        (congrArg Prod.fst recorded).trans (datastoresOf_platform probed metrics.databases)
      have before : reached.platform = state.platform := platform
      rw [before] at own
      rw [kept]
      exact own
  | datastore name =>
      have own := datastoreStep_keyed.memory_of_key metrics.databases probed
        (by simpa using distinct.datastores) name
      show (observe config state metrics).state.datastores.get? name = _
      rw [List.filter_true] at own
      have kept : (observe config state metrics).state.datastores =
          (datastoresOf metrics.databases probed).1.datastores := congrArg Prod.snd recorded
      have before : probed.datastores = state.datastores :=
        (platformOf_datastores reached metrics.platform).trans datastores
      rw [before] at own
      rw [kept]
      exact own

end Step

section Transitions

variable (config : DetectorConfig) (now : Seconds) (pipelineId : String)
variable (pipeline : PipelineMetrics) (state : Detector)

/-- The broker announces no transition of a subject. -/
theorem brokerOf_transitions (found : Found)
    (member : found ∈ (brokerOf config pipelineId pipeline state).2) :
    found.kind ∉ transitionKinds := by
  have announced : ∀ previous available,
      ∀ found ∈ availabilityFound pipelineId previous available,
        found.kind ∉ transitionKinds := by
    intro previous available found member
    unfold availabilityFound at member
    split at member
    · split at member <;> rw [List.mem_singleton.mp member] <;> simp [transitionKinds]
    · cases member
  have depths : ∀ before queue, ∀ found ∈ depthFound before queue,
      found.kind ∉ transitionKinds := by
    intro before queue found member
    unfold depthFound at member
    split at member
    · cases member
    · split at member
      · cases member
      · split at member
        · rw [List.mem_singleton.mp member]
          simp [transitionKinds]
        · split at member
          · rw [List.mem_singleton.mp member]
            simp [transitionKinds]
          · cases member
  rw [brokerOf_eq] at member
  split at member
  · rcases List.mem_append.mp member with inside | inside
    · exact announced _ _ found inside
    · obtain ⟨visit, _, told⟩ := mem_loop_flatten _ _ _ _ inside
      rw [deadLetterStep_found] at told
      split at told
      · exact depths _ _ found told
      · cases told
  · exact announced _ _ found member

/-- The work queues announce no transition of a subject. -/
theorem workQueuesOf_transitions (found : Found)
    (member : found ∈ (workQueuesOf config pipelineId pipeline now state).2.found) :
    found.kind ∉ transitionKinds := by
  have announced : ∀ known condition queue, ∀ found ∈ announcement known condition queue,
      found.kind ∉ transitionKinds := by
    intro known condition queue found member
    have fault : ∀ kind, "queue-" ++ kindText kind ∉ transitionKinds := by
      intro kind
      cases kind with
      | none => decide
      | some kind => cases kind <;> decide
    unfold announcement at member
    dsimp only at member
    split at member
    · cases member
    · split at member
      · rw [List.mem_singleton.mp member]
        exact fault _
      · rw [List.mem_singleton.mp member]
        simp [transitionKinds]
  unfold workQueuesOf at member
  split at member
  · rw [List.mem_flatten] at member
    obtain ⟨founds, listed, inside⟩ := member
    obtain ⟨outcome, result, same⟩ := List.mem_map.mp listed
    rw [mem_loop_results] at result
    obtain ⟨visit, _, equal⟩ := result
    rw [← same, ← equal] at inside
    by_cases work : visit.2.name ∈ config.workQueues
    · rw [workQueueStep_outcome _ _ _ _ _ _ work] at inside
      exact announced _ _ _ found inside
    · rw [workQueueStep_of_other _ _ _ _ _ _ work] at inside
      cases inside
  · cases member

/-- The transitions that a pipeline announces are those of its services. -/
theorem pipelineStep_transitions :
    ((pipelineStep config now state (pipelineId, pipeline)).2.found.filter fun found =>
      found.kind ∈ transitionKinds) = (servicesOf pipelineId pipeline.services state).2 := by
  have services : ((servicesOf pipelineId pipeline.services state).2.filter fun found =>
      found.kind ∈ transitionKinds) = (servicesOf pipelineId pipeline.services state).2 := by
    rw [List.filter_eq_self]
    intro found member
    obtain ⟨visit, _, told⟩ := mem_loop_flatten _ _ _ _ member
    rw [(serviceStep_keyed pipelineId).result] at told
    exact decide_eq_true (serviceFound_told _ _ found told).2
  have broker : ∀ state, ((brokerOf config pipelineId pipeline state).2.filter fun found =>
      found.kind ∈ transitionKinds) = [] := by
    intro state
    rw [List.filter_eq_nil_iff]
    intro found member kind
    exact brokerOf_transitions config pipelineId pipeline state found member
      (of_decide_eq_true kind)
  have work : ∀ state, ((workQueuesOf config pipelineId pipeline now state).2.found.filter
      fun found => found.kind ∈ transitionKinds) = [] := by
    intro state
    rw [List.filter_eq_nil_iff]
    intro found member kind
    exact workQueuesOf_transitions config now pipelineId pipeline state found member
      (of_decide_eq_true kind)
  unfold pipelineStep beforeWorkQueues
  dsimp only
  rw [List.filter_append, List.filter_append, services, broker, work, List.append_nil,
    List.append_nil]

/-- The passes of the pipelines announce the transitions of their services, each from its own
memory. -/
theorem pipelines_transitions (items : List (String × PipelineMetrics))
    (unique : (items.map Prod.fst).Nodup) :
    ((loop (pipelineStep config now) state items).2.map PipelineOutcome.found).flatten.filter
        (fun found => found.kind ∈ transitionKinds) =
      items.flatMap fun item => (servicesOf item.1 item.2.services state).2 := by
  induction items generalizing state with
  | nil => rfl
  | cons item rest ih =>
      rw [List.map_cons, List.nodup_cons] at unique
      have later : (rest.flatMap fun other => (servicesOf other.1 other.2.services
          (pipelineStep config now state item).1).2) =
            rest.flatMap fun other => (servicesOf other.1 other.2.services state).2 := by
        apply List.flatMap_congr
        intro other member
        have different : item.1 ≠ other.1 := fun same =>
          unique.1 (same ▸ List.mem_map_of_mem member)
        exact (servicesOf_determined other.1 _ state other.2.services
          (pipelineStep_other config now item.1 item.2 state other.1 different)).1
      simp only [loop, List.map_cons, List.flatten_cons, List.filter_append, List.flatMap_cons]
      rw [ih _ unique.2, later, pipelineStep_transitions config now item.1 item.2 state]

/-- The news of the platform depend on its memory only. -/
theorem platformOf_determined (platform : List PlatformService) (first second : Detector)
    (agree : first.platform = second.platform) :
    (platformOf platform first).2 = (platformOf platform second).2 := by
  have same := (loop_determined platformStep (fun state => state.platform.get?) platform
    (fun first second service _ known => by
      refine ⟨?_, funext fun other => ?_⟩
      · rw [platformStep_keyed.result, platformStep_keyed.result, congrFun known service.name]
      · rw [platformStep_keyed.memory, platformStep_keyed.memory, congrFun known other])
    first second (congrArg Dict.get? agree)).1
  exact congrArg List.flatten same

/-- The news of the datastores depend on their memory only. -/
theorem datastoresOf_determined (databases : List DatabaseInfo) (first second : Detector)
    (agree : first.datastores = second.datastores) :
    (datastoresOf databases first).2 = (datastoresOf databases second).2 := by
  have same := (loop_determined datastoreStep (fun state => state.datastores.get?) databases
    (fun first second database _ known => by
      refine ⟨?_, funext fun other => ?_⟩
      · rw [datastoreStep_keyed.result, datastoreStep_keyed.result, congrFun known database.name]
      · rw [datastoreStep_keyed.memory, datastoreStep_keyed.memory, congrFun known other])
    first second (congrArg Dict.get? agree)).1
  exact congrArg List.flatten same

/-- The transitions among the events of a reading are those that the three methods find in it. -/
theorem observe_transitions (metrics : SystemMetrics) :
    ((observe config state metrics).events.filter fun event => event.kind ∈ transitionKinds).map
        Event.found =
      (metrics.pipelines.items.flatMap fun item =>
        (servicesOf item.1 item.2.services state).2) ++
          (platformOf metrics.platform state).2 ++ (datastoresOf metrics.databases state).2 := by
  let reached := (loop (pipelineStep config metrics.timestamp) state metrics.pipelines.items).1
  let probed := (platformOf metrics.platform reached).1
  obtain ⟨platform, datastores⟩ := pipelines_platform config state metrics.timestamp
    metrics.pipelines.items
  have sameProbes :
      (platformOf metrics.platform reached).2 = (platformOf metrics.platform state).2 :=
    platformOf_determined metrics.platform reached state platform
  have sameStores : (datastoresOf metrics.databases probed).2 =
      (datastoresOf metrics.databases state).2 :=
    datastoresOf_determined metrics.databases probed state
      ((platformOf_datastores reached metrics.platform).trans datastores)
  have probes : ((platformOf metrics.platform state).2.filter fun found =>
      found.kind ∈ transitionKinds) = (platformOf metrics.platform state).2 := by
    rw [List.filter_eq_self]
    intro found member
    obtain ⟨visit, _, told⟩ := mem_loop_flatten _ _ _ _ member
    rw [platformStep_keyed.result] at told
    exact decide_eq_true (platformFound_told _ _ found told).2
  have stores : ((datastoresOf metrics.databases state).2.filter fun found =>
      found.kind ∈ transitionKinds) = (datastoresOf metrics.databases state).2 := by
    rw [List.filter_eq_self]
    intro found member
    obtain ⟨visit, _, told⟩ := mem_loop_flatten _ _ _ _ member
    rw [datastoreStep_keyed.result] at told
    exact decide_eq_true (datastoreFound_told _ _ found told).2
  have found : ((observe config state metrics).events.filter fun event =>
      event.kind ∈ transitionKinds).map Event.found =
        (detect config state metrics).2.filter fun found => found.kind ∈ transitionKinds := by
    rw [← observe_events_found, List.filter_map]
    rfl
  rw [found]
  show List.filter _ (((pipelineOutcomes config state metrics).map PipelineOutcome.found).flatten ++
    (platformOf metrics.platform reached).2 ++ (datastoresOf metrics.databases probed).2) = _
  rw [List.filter_append, List.filter_append, sameProbes, sameStores, probes, stores,
    pipelineOutcomes,
    pipelines_transitions config metrics.timestamp state _ metrics.pipelines.nodup]

end Transitions

end OperationsConsole
