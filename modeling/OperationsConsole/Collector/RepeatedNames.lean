/-
This file decides when a collected reading announces each queue at most once.
The scrapes are keyed by virtual host and name, and the detector by pipeline and name.
-/

import OperationsConsole.Collector.Collection
import OperationsConsole.Events.SilentQueues

namespace OperationsConsole

open Library

/-- A reading announces each queue at most once, and an equal reading announces nothing and sets the
same conditions. -/
structure AnnouncesOnce (config : DetectorConfig) (state : Detector) (metrics : SystemMetrics) :
    Prop where
  deadLetters : ∀ name, ((observe config state metrics).events.map Event.found).countP
    (newsOf dlqFamily name) ≤ 1
  work : ∀ name, ((observe config state metrics).events.map Event.found).countP
    (newsOf queueFamily name) ≤ 1
  quiet : (observe config (observe config state metrics).state metrics).events = []
  conditions : ∀ pipelineId,
    (observe config (observe config state metrics).state metrics).metrics.pipelines.get?
      pipelineId = (observe config state metrics).metrics.pipelines.get? pipelineId

/-- The scrapes of a poll list these queue names, over all virtual hosts and pipelines. -/
def scrapedNames (configs : Dict String PipelineConfig) (answers : Answers) : List String :=
  configs.items.flatMap fun item =>
    ((answers.broker item.1).map (selectQueues item.2.queuePrefix)).elim [] fun samples =>
      samples.items.map fun entry => entry.1.2

/-- No scrape lists a watched name twice, and no two scrapes list the same one. -/
def NamesOnce (configs : Dict String PipelineConfig) (answers : Answers) : Prop :=
  ((scrapedNames configs answers).filter fun name =>
      name ∈ (detectorConfig configs).deadLetterQueues).Nodup ∧
    ((scrapedNames configs answers).filter fun name =>
      name ∈ (detectorConfig configs).workQueues).Nodup

/-- In two polls the broker holds the same queues, whatever their counts are. -/
def SameQueues (first second : Answers) : Prop :=
  ∀ pipelineId, (first.broker pipelineId).map (fun samples => samples.items.map Prod.fst) =
    (second.broker pipelineId).map fun samples => samples.items.map Prod.fst

section Reading

variable (configs : Dict String PipelineConfig) (answers : Answers)

/-- The queues of a pipeline are those of its scrape, in the order of their names. -/
theorem readPipeline_names (pipelineId : String) (config : PipelineConfig) :
    ((if (readPipeline answers pipelineId config).queuesAvailable then
        (readPipeline answers pipelineId config).queues else []).map QueueInfo.name).Perm
      (((answers.broker pipelineId).map (selectQueues config.queuePrefix)).elim [] fun samples =>
        samples.items.map fun entry => entry.1.2) := by
  unfold readPipeline collectPipeline getQueueInfo
  cases (answers.broker pipelineId).map (selectQueues config.queuePrefix) with
  | none => exact List.Perm.refl _
  | some samples =>
      simp only [Option.isSome_some, if_true, Option.getD_some, List.map_map, Option.elim_some]
      exact (List.mergeSort_perm _ _).map _

/-- The reading lists the names of the scrapes. -/
theorem scrapedQueues_names : ((scrapedQueues (collectAllMetrics configs answers)).map
    QueueInfo.name).Perm (scrapedNames configs answers) := by
  unfold scrapedQueues scrapedNames collectAllMetrics Dict.mapValues
  dsimp only
  rw [List.flatMap_map, List.map_flatMap]
  induction configs.items with
  | nil => exact List.Perm.refl _
  | cons item rest ih =>
      rw [List.flatMap_cons, List.flatMap_cons]
      exact (readPipeline_names answers item.1 item.2).append ih

theorem listedOnce_iff (watched : List String) :
    ListedOnce watched (collectAllMetrics configs answers) ↔
      ((scrapedNames configs answers).filter fun name => name ∈ watched).Nodup := by
  have names := (scrapedQueues_names configs answers).filter fun name => decide (name ∈ watched)
  rw [List.filter_map] at names
  exact names.nodup_iff

/-- The scraped names depend on the queues of the broker only. -/
theorem scrapedNames_same (other : Answers) (same : SameQueues other answers) :
    scrapedNames configs other = scrapedNames configs answers := by
  have selected : ∀ (samples : Samples) (queuePrefix : String),
      (selectQueues queuePrefix samples).items.map (fun entry => entry.1.2) =
        ((samples.items.map Prod.fst).filter fun key =>
          decide (queuePrefix.toList <+: key.2.toList)).map Prod.snd := by
    intro samples queuePrefix
    rw [List.filter_map, List.map_map]
    rfl
  unfold scrapedNames
  congr 1
  funext item
  have held := same item.1
  cases here : other.broker item.1 with
  | none =>
      rw [here, Option.map_none] at held
      rw [Option.map_eq_none_iff.mp held.symm]
  | some samples =>
      rw [here, Option.map_some] at held
      obtain ⟨others, there, keys⟩ := Option.map_eq_some_iff.mp held.symm
      rw [there]
      simp only [Option.map_some, Option.elim_some, selected, keys]

end Reading

section Once

variable (discogsPrefix musicbrainzPrefix : String) (answers : Answers)

theorem pipelineConfigs_cases (pipelineId : String) (config : PipelineConfig)
    (listed : (pipelineConfigs discogsPrefix musicbrainzPrefix).get? pipelineId = some config) :
    config.services.Nodup := by
  rw [Dict.get?_eq_some_iff] at listed
  simp only [pipelineConfigs, List.mem_cons, Prod.mk.injEq, List.not_mem_nil, or_false] at listed
  rcases listed with ⟨_, same⟩ | ⟨_, same⟩
  · rw [same]
    show ["extractor-discogs", "graphinator", "tableinator"].Nodup
    decide
  · rw [same]
    show ["extractor-musicbrainz", "brainzgraphinator", "brainztableinator"].Nodup
    decide

theorem pollService_name (name : String) (answer : HealthAnswer) :
    (pollService name answer).name = name := by
  cases answer <;> rfl

/-- The rows of the datastores are not probes. -/
theorem platform_probes (databases : List DatabaseInfo) (probed : List PlatformService)
    (probes : ∀ service ∈ probed, service.source = "probe") :
    (platformWithDatastores probed databases).filter (fun service => service.source = "probe") =
      probed := by
  have stores : (datastoreServices databases).filter (fun service => service.source = "probe") =
      [] := by
    rw [List.filter_eq_nil_iff]
    intro service member
    obtain ⟨database, _, same⟩ := List.mem_map.mp member
    rw [← same]
    simp
  have whole : probed.filter (fun service => service.source = "probe") = probed := by
    rw [List.filter_eq_self]
    intro service member
    simpa using probes service member
  unfold platformWithDatastores
  dsimp only
  rw [List.filter_append, List.filter_append, stores, List.append_nil, ← List.filter_append,
    List.take_append_drop, whole]

/-- A collected reading names every subject once when its scrapes list each watched name once. -/
theorem collected_distinct
    (once : NamesOnce (pipelineConfigs discogsPrefix musicbrainzPrefix) answers) :
    DistinctReading (detectorConfig (pipelineConfigs discogsPrefix musicbrainzPrefix))
      (collectAllMetrics (pipelineConfigs discogsPrefix musicbrainzPrefix) answers) := by
  have deadLetters := (listedOnce_iff _ answers _).mpr once.1
  have work := (listedOnce_iff _ answers _).mpr once.2
  constructor
  · intro pipelineId pipeline listed
    simp only [collectAllMetrics, Dict.get?_mapValues, Option.map_eq_some_iff] at listed
    obtain ⟨config, configured, same⟩ := listed
    have names : pipeline.services.map ServiceStatus.name = config.services := by
      rw [← same]
      show ((config.services.map fun name =>
        pollService name (answers.health pipelineId name)).map ServiceStatus.name) = _
      rw [List.map_map]
      simp only [Function.comp_def, pollService_name, List.map_id']
    rw [names]
    exact pipelineConfigs_cases _ _ pipelineId config configured
  · intro pipelineId pipeline listed scraped
    constructor
    · exact distinctNames_of_listedOnce _ _ deadLetters pipelineId pipeline listed scraped
    · exact distinctNames_of_listedOnce _ _ work pipelineId pipeline listed scraped
  · show (((platformWithDatastores _ _).filter fun service => service.source = "probe").map
      PlatformService.name).Nodup
    rw [platform_probes]
    · rw [List.map_map]
      show (platformProbes.map Prod.fst).Nodup
      decide
    · intro service member
      obtain ⟨probe, _, same⟩ := List.mem_map.mp member
      rw [← same]
  · cases present : answers.neo4j with
    | none => simp [collectAllMetrics, present]
    | some status => simp [collectAllMetrics, present]

/-- Every reading of such scrapes announces each queue at most once, in every state. -/
theorem announcesOnce_of_namesOnce
    (once : NamesOnce (pipelineConfigs discogsPrefix musicbrainzPrefix) answers)
    (state : Detector) :
    AnnouncesOnce (detectorConfig (pipelineConfigs discogsPrefix musicbrainzPrefix)) state
      (collectAllMetrics (pipelineConfigs discogsPrefix musicbrainzPrefix) answers) := by
  let config := detectorConfig (pipelineConfigs discogsPrefix musicbrainzPrefix)
  let metrics := collectAllMetrics (pipelineConfigs discogsPrefix musicbrainzPrefix) answers
  have again := observe_again config state metrics
    (collected_distinct discogsPrefix musicbrainzPrefix answers once)
  constructor
  · intro name
    have listed := listedOnce_countP _ metrics ((listedOnce_iff _ answers _).mpr once.1) name
    rw [observe_events_found]
    exact Nat.le_trans (detect_news config name state metrics).1 listed
  · intro name
    have listed := listedOnce_countP _ metrics ((listedOnce_iff _ answers _).mpr once.2) name
    rw [observe_events_found]
    exact Nat.le_trans (detect_news config name state metrics).2 listed
  · exact again.1
  · exact again.2

end Once

end OperationsConsole
