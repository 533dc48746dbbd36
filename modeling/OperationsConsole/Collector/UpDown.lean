/-
This file proves the law of the up and down events over every history of readings.
The events of a subject alternate as long as no reading shows it as disabled or unconfigured.
-/

import OperationsConsole.Collector.Collection
import OperationsConsole.Events.Subjects

namespace OperationsConsole

open Library

/-- The bit that the newest reading with the subject showed, unless it showed it as inactive. -/
def Subject.lastSeen (subject : Subject) (history : List SystemMetrics) : Option Bool :=
  lastSighted (subject.sightings history)

/-- The transitions of a subject over the newer readings of a run, the newest first. -/
def subjectEvents (config : DetectorConfig) (subject : Subject) (older : List SystemMetrics) :
    List SystemMetrics → List Found
  | [] => []
  | metrics :: newer =>
      subjectFound (detectorAfter config (newer ++ older)) metrics subject ++
        subjectEvents config subject older newer

/-- Every reading of a history has distinct names. -/
def DistinctHistory (history : List SystemMetrics) : Prop :=
  ∀ metrics ∈ history, DistinctSubjects metrics

section Runs

variable (config : DetectorConfig) (subject : Subject)

/-- The detector remembers the bit that was seen last. -/
theorem detectorAfter_bitOf (history : List SystemMetrics) (distinct : DistinctHistory history) :
    (detectorAfter config history).bitOf subject = subject.lastSeen history := by
  induction history with
  | nil => cases subject <;> rfl
  | cons metrics earlier ih =>
      have before := ih fun other member => distinct other (List.mem_cons_of_mem metrics member)
      have next := observe_bitOf config (detectorAfter config earlier) metrics
        (distinct metrics List.mem_cons_self) subject
      show (observe config (detectorAfter config earlier) metrics).state.bitOf subject = _
      rw [next, before]
      cases seen : subject.sighting metrics with
      | none =>
          rw [Option.getD_none, Subject.lastSeen, Subject.lastSeen,
            subject.sightings_unseen metrics earlier seen]
      | some sighting =>
          rw [Option.getD_some, Subject.lastSeen,
            subject.sightings_seen metrics earlier sighting seen]
          rfl

/-- The transitions of a reading follow from its sighting and from what was seen before. -/
theorem subjectFound_seen (metrics : SystemMetrics) (earlier : List SystemMetrics)
    (distinct : DistinctHistory (metrics :: earlier)) :
    (subjectFound (detectorAfter config earlier) metrics subject).map
        (fun found => (found.kind, found.subject)) =
      sightingAnnounces subject (subject.lastSeen earlier) (subject.sighting metrics) := by
  rw [subjectFound_announces _ metrics (distinct metrics List.mem_cons_self) subject,
    detectorAfter_bitOf config subject earlier
      fun other member => distinct other (List.mem_cons_of_mem metrics member)]

/-- A reading announces a subject exactly when it shows another bit than the last one seen. -/
theorem mem_subjectFound_iff (metrics : SystemMetrics) (earlier : List SystemMetrics)
    (distinct : DistinctHistory (metrics :: earlier)) :
    (∃ found, found ∈ subjectFound (detectorAfter config earlier) metrics subject) ↔
      ∃ up, subject.sighting metrics = some (some up) ∧ subject.lastSeen earlier = some (!up) := by
  have announced := subjectFound_seen config subject metrics earlier distinct
  constructor
  · rintro ⟨found, member⟩
    have told := List.mem_map_of_mem (f := fun found : Found => (found.kind, found.subject)) member
    rw [announced, mem_sightingAnnounces_iff] at told
    obtain ⟨up, seen, before, _⟩ := told
    exact ⟨up, seen, before⟩
  · rintro ⟨up, seen, before⟩
    have told := (mem_sightingAnnounces_iff subject _ _ _).mpr ⟨up, seen, before, rfl⟩
    rw [← announced] at told
    obtain ⟨found, member, _⟩ := List.mem_map.mp told
    exact ⟨found, member⟩

/-- What a reading announces of a subject is one event that carries the new bit. -/
theorem subjectFound_told (metrics : SystemMetrics) (earlier : List SystemMetrics)
    (distinct : DistinctHistory (metrics :: earlier)) (found : Found)
    (member : found ∈ subjectFound (detectorAfter config earlier) metrics subject) :
    subjectFound (detectorAfter config earlier) metrics subject = [found] ∧
      found.subject = subject.name ∧
        ∃ up, subject.sighting metrics = some (some up) ∧ found.kind = subject.kind up := by
  have announced := subjectFound_seen config subject metrics earlier distinct
  have told := List.mem_map_of_mem (f := fun found : Found => (found.kind, found.subject)) member
  rw [announced, mem_sightingAnnounces_iff] at told
  obtain ⟨up, seen, _, content⟩ := told
  have single : (subjectFound (detectorAfter config earlier) metrics subject).length ≤ 1 := by
    rw [← List.length_map (f := fun found : Found => (found.kind, found.subject)), announced]
    exact sightingAnnounces_length _ _ _
  refine ⟨?_, congrArg Prod.snd content, up, seen, congrArg Prod.fst content⟩
  obtain ⟨before, rest, split⟩ := List.append_of_mem member
  rw [split, List.length_append, List.length_cons] at single
  have noBefore : before = [] := List.length_eq_zero_iff.mp (by omega)
  have noRest : rest = [] := List.length_eq_zero_iff.mp (by omega)
  rw [split, noBefore, noRest]
  rfl

theorem changed_iff (before : Option Bool) (up : Bool) :
    changed before up = before.any fun known => known ≠ up := by
  cases before with
  | none => cases up <;> rfl
  | some known => cases known <;> cases up <;> rfl

/-- The kinds of the events of a subject are the news of its sightings. -/
theorem subjectEvents_kinds (newer older : List SystemMetrics)
    (distinct : DistinctHistory (newer ++ older)) :
    (subjectEvents config subject older newer).map Found.kind =
      (newsSince (subject.sightings older) (subject.sightings newer)).map subject.kind := by
  induction newer with
  | nil => rfl
  | cons metrics newer ih =>
      have told := congrArg (List.map Prod.fst)
        (subjectFound_seen config subject metrics (newer ++ older) distinct)
      rw [List.map_map] at told
      have earlier := ih fun other member => distinct other (List.mem_cons_of_mem metrics member)
      rw [subjectEvents, List.map_append, earlier]
      refine (congrArg (· ++ _) told).trans ?_
      cases seen : subject.sighting metrics with
      | none =>
          rw [subject.sightings_unseen metrics newer seen]
          rfl
      | some sighting =>
          rw [subject.sightings_seen metrics newer sighting seen]
          cases sighting with
          | none => rfl
          | some up =>
              rw [sightingAnnounces, announces, changed_iff, Subject.lastSeen,
                subject.sightings_append, newsSince]
              split <;> rfl

end Runs

/-- The rows of the datastores find nothing and change nothing. -/
theorem datastoreServices_silent (databases : List DatabaseInfo) (state : Detector) :
    (loop platformStep state (datastoreServices databases)).1 = state ∧
      (loop platformStep state (datastoreServices databases)).2.flatten = [] := by
  induction databases with
  | nil => exact ⟨rfl, rfl⟩
  | cons database rest ih =>
      have skipped : platformStep state
          { name := if database.name.toLower = "postgresql" then "postgres"
              else database.name.toLower
            group := "data"
            status := if database.status = "healthy" then "healthy" else "unhealthy"
            source := "datastore" } = (state, []) := if_pos (by simp)
      simp only [datastoreServices, List.map_cons, loop, skipped]
      exact ih

/-- The detector treats the platform of a poll as if the datastores had no rows. -/
theorem platformOf_withDatastores (probed : List PlatformService) (databases : List DatabaseInfo)
    (state : Detector) :
    platformOf (platformWithDatastores probed databases) state = platformOf probed state := by
  let first := probed.findIdx fun service => service.group = "data"
  obtain ⟨kept, quiet⟩ := datastoreServices_silent databases
    (loop platformStep state (probed.take first)).1
  have whole := loop_append platformStep state (probed.take first) (probed.drop first)
  rw [List.take_append_drop] at whole
  unfold platformOf platformWithDatastores
  dsimp only
  rw [loop_append, loop_append, kept, whole, List.flatten_append, List.flatten_append,
    List.flatten_append, quiet, List.append_nil]

/-- The spans of a run in which the events of a subject must alternate. -/
abbrev Span := Subject → List SystemMetrics → List SystemMetrics → Prop

/-- A whole run has no older reading. -/
def WholeRun : Span := fun _ _ older => older = []

/-- No reading of a span shows a platform service as disabled or unconfigured. -/
def NeverInactive : Span
  | .platform name, newer, _ => ∀ metrics ∈ newer, ∀ service ∈ probedServices metrics.platform,
      service.name = name → isServiceInactive service.status = false
  | _, _, _ => True

/-- Every reading announces exactly the changes of the subjects that it shows, and over a span the
events of a subject alternate and agree with what was seen last. -/
structure UpDownLaw (config : DetectorConfig) (span : Span) (history : List SystemMetrics) :
    Prop where
  complete : ∀ metrics earlier, metrics :: earlier <:+ history →
    ((observe config (detectorAfter config earlier) metrics).events.filter fun event =>
        event.kind ∈ transitionKinds).map Event.found =
      (metrics.pipelines.items.flatMap fun item =>
        (servicesOf item.1 item.2.services (detectorAfter config earlier)).2) ++
          (platformOf metrics.platform (detectorAfter config earlier)).2 ++
            (datastoresOf metrics.databases (detectorAfter config earlier)).2
  emitted : ∀ metrics earlier, metrics :: earlier <:+ history → ∀ subject,
    (∃ found, found ∈ subjectFound (detectorAfter config earlier) metrics subject) ↔
      ∃ up, subject.sighting metrics = some (some up) ∧ subject.lastSeen earlier = some (!up)
  told : ∀ metrics earlier, metrics :: earlier <:+ history → ∀ subject,
    ∀ found ∈ subjectFound (detectorAfter config earlier) metrics subject,
      subjectFound (detectorAfter config earlier) metrics subject = [found] ∧
        found.subject = subject.name ∧
          ∃ up, subject.sighting metrics = some (some up) ∧ found.kind = subject.kind up
  silent : ∀ metrics earlier, metrics :: earlier <:+ history → ∀ subject,
    subject.sightings earlier = [] →
      subjectFound (detectorAfter config earlier) metrics subject = []
  alternates : ∀ subject newer older, newer ++ older <:+ history → span subject newer older →
    ((subjectEvents config subject older newer).map Found.kind).IsChain (· ≠ ·)
  agrees : ∀ subject newer older, newer ++ older <:+ history → span subject newer older →
    ∀ found ∈ (subjectEvents config subject older newer).head?,
      ∃ up, subject.lastSeen (newer ++ older) = some up ∧ found.kind = subject.kind up
  rows : ∀ metrics earlier, metrics :: earlier <:+ history → ∀ probed,
    metrics.platform = platformWithDatastores probed metrics.databases →
      platformOf metrics.platform (detectorAfter config earlier) =
        platformOf probed (detectorAfter config earlier)
  once : ∀ metrics earlier, metrics :: earlier <:+ history → ∀ name,
    (∀ item ∈ metrics.pipelines.items, ∀ service ∈ item.2.services, service.name ≠ name) →
    (∀ service ∈ probedServices metrics.platform, service.name ≠ name) →
      ((observe config (detectorAfter config earlier) metrics).events.filter fun event =>
          event.kind ∈ transitionKinds ∧ event.subject = name).map Event.found =
        subjectFound (detectorAfter config earlier) metrics (.datastore name)

/-- A span without inactive readings forgets nothing. -/
theorem kept_of_neverInactive (subject : Subject) (newer older : List SystemMetrics)
    (active : NeverInactive subject newer older) : none ∉ subject.sightings newer := by
  intro forgotten
  obtain ⟨metrics, member, seen⟩ := List.mem_filterMap.mp forgotten
  cases subject with
  | service pipelineId name =>
      obtain ⟨pipeline, _, row⟩ := Option.bind_eq_some_iff.mp seen
      obtain ⟨service, _, shown⟩ := Option.map_eq_some_iff.mp row
      cases shown
  | platform name =>
      obtain ⟨service, found, shown⟩ := Option.map_eq_some_iff.mp seen
      have named : service.name = name := by simpa using List.find?_some found
      have serving := active metrics member service (List.mem_of_find?_eq_some found) named
      rw [serving] at shown
      cases shown
  | datastore name =>
      obtain ⟨database, _, shown⟩ := Option.map_eq_some_iff.mp seen
      cases shown

/-- Apart from its services and its probed platform services, a reading announces a name only as a
datastore. -/
theorem datastore_once (config : DetectorConfig) (state : Detector) (metrics : SystemMetrics)
    (name : String)
    (services : ∀ item ∈ metrics.pipelines.items, ∀ service ∈ item.2.services,
      service.name ≠ name)
    (platform : ∀ service ∈ probedServices metrics.platform, service.name ≠ name) :
    ((observe config state metrics).events.filter fun event =>
        event.kind ∈ transitionKinds ∧ event.subject = name).map Event.found =
      subjectFound state metrics (.datastore name) := by
  have split : ((observe config state metrics).events.filter fun event =>
      event.kind ∈ transitionKinds ∧ event.subject = name).map Event.found =
        (((observe config state metrics).events.filter fun event =>
          event.kind ∈ transitionKinds).map Event.found).filter fun found =>
            found.subject = name := by
    rw [List.filter_map, List.filter_filter]
    congr 1
    apply List.filter_congr
    intro event _
    rw [Bool.decide_and, Bool.and_comm]
    rfl
  have noService : ((metrics.pipelines.items.flatMap fun item =>
      (servicesOf item.1 item.2.services state).2).filter fun found =>
        found.subject = name) = [] := by
    rw [List.filter_eq_nil_iff]
    intro found member same
    obtain ⟨item, inside, told⟩ := List.mem_flatMap.mp member
    obtain ⟨visit, reached, told⟩ := mem_loop_flatten _ _ _ _ told
    rw [(serviceStep_keyed item.1).result] at told
    exact services item inside visit.2 (mem_visits_item _ _ _ _ reached)
      ((serviceFound_told _ _ found told).1.symm.trans (of_decide_eq_true same))
  have noProbe : ((platformOf metrics.platform state).2.filter fun found =>
      found.subject = name) = [] := by
    rw [List.filter_eq_nil_iff]
    intro found member same
    obtain ⟨visit, reached, told⟩ := mem_loop_flatten _ _ _ _ member
    rw [platformStep_keyed.result] at told
    have probe : visit.2.source = "probe" := by
      by_contra other
      rw [platformFound_other _ _ (decide_eq_false other)] at told
      cases told
    exact platform visit.2
      (List.mem_filter.mpr ⟨mem_visits_item _ _ _ _ reached, decide_eq_true probe⟩)
      ((platformFound_told _ _ found told).1.symm.trans (of_decide_eq_true same))
  rw [split, observe_transitions, List.filter_append, List.filter_append, noService, noProbe]
  rfl

/-- Every history of readings with distinct names follows the law, where the events of a platform
service alternate between two readings that show it as inactive. -/
theorem upDownLaw (config : DetectorConfig) (history : List SystemMetrics)
    (distinct : DistinctHistory history) : UpDownLaw config NeverInactive history := by
  have own : ∀ metrics earlier, metrics :: earlier <:+ history →
      DistinctHistory (metrics :: earlier) := fun metrics earlier suffix other member =>
    distinct other (suffix.subset member)
  have ownSpan : ∀ newer older, newer ++ older <:+ history → DistinctHistory (newer ++ older) :=
    fun newer older suffix other member => distinct other (suffix.subset member)
  refine ⟨?_, ?_, ?_, ?_, ?_, ?_, ?_, ?_⟩
  · intro metrics earlier _
    exact observe_transitions config (detectorAfter config earlier) metrics
  · intro metrics earlier suffix subject
    exact mem_subjectFound_iff config subject metrics earlier (own metrics earlier suffix)
  · intro metrics earlier suffix subject found member
    exact subjectFound_told config subject metrics earlier (own metrics earlier suffix) found member
  · intro metrics earlier suffix subject unseen
    rw [List.eq_nil_iff_forall_not_mem]
    intro found member
    obtain ⟨up, _, before⟩ := (mem_subjectFound_iff config subject metrics earlier
      (own metrics earlier suffix)).mp ⟨found, member⟩
    rw [Subject.lastSeen, unseen] at before
    cases before
  · intro subject newer older suffix active
    rw [subjectEvents_kinds config subject newer older (ownSpan newer older suffix),
      List.isChain_map]
    have kept := kept_of_neverInactive subject newer older active
    exact (newsSince_alternates (subject.sightings older) (subject.sightings newer) kept).imp
      fun first second different same => different (subject.kind_injective same)
  · intro subject newer older suffix active found head
    have kept := kept_of_neverInactive subject newer older active
    have kinds := congrArg List.head?
      (subjectEvents_kinds config subject newer older (ownSpan newer older suffix))
    rw [List.head?_map, List.head?_map, head] at kinds
    obtain ⟨up, newest, same⟩ := Option.map_eq_some_iff.mp kinds.symm
    refine ⟨up, ?_, same.symm⟩
    rw [Subject.lastSeen, subject.sightings_append]
    exact newsSince_agrees (subject.sightings older) (subject.sightings newer) kept up newest
  · intro metrics earlier _ probed rows
    rw [rows, platformOf_withDatastores]
  · intro metrics earlier _ name services platform
    exact datastore_once config (detectorAfter config earlier) metrics name services platform

/-- A reading of one probed platform service. -/
def probedReading (timestamp : Seconds) (status : String) : SystemMetrics where
  pipelines := Dict.empty
  timestamp := timestamp
  platform := [⟨"insights", "applications", status, "probe"⟩]

/-- The service goes down, is disabled, comes back unseen, and goes down again. -/
def disabledBetween : List SystemMetrics :=
  [probedReading 12 "unhealthy", probedReading 9 "healthy", probedReading 6 "disabled",
    probedReading 3 "unhealthy", probedReading 0 "healthy"]

theorem disabledBetween_distinct : DistinctHistory disabledBetween := by
  intro metrics member
  simp only [disabledBetween, List.mem_cons, List.not_mem_nil, or_false] at member
  rcases member with rfl | rfl | rfl | rfl | rfl <;>
    exact ⟨fun _ _ listed => absurd listed (by simp [probedReading, Dict.get?_empty]),
      by decide, List.nodup_nil⟩

/-- The law at a history in which a platform service is disabled between two outages. -/
theorem upDownLaw_disabled : UpDownLaw {} NeverInactive disabledBetween :=
  upDownLaw {} disabledBetween disabledBetween_distinct

/-- Over the whole run the service is announced as down twice in a row. -/
theorem wholeRun_fails : ¬∀ config history, DistinctHistory history →
    UpDownLaw config WholeRun history := by
  intro law
  have alternating := (law {} disabledBetween disabledBetween_distinct).alternates
    (.platform "insights") disabledBetween [] (by simp) rfl
  have kinds : (subjectEvents {} (.platform "insights") [] disabledBetween).map Found.kind =
      ["service-down", "service-down"] := by
    decide +kernel
  rw [kinds] at alternating
  simp at alternating

end OperationsConsole
