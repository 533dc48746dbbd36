/-
This file embeds the collection of a reading in `dashboard/dashboard.py` with its configuration.
A scrape selects the queues of the broker whose names begin with the prefix of a pipeline.
-/

import OperationsConsole.Collector.QueueMetrics
import OperationsConsole.Events.Detector

namespace OperationsConsole

open Library

structure ConsumerConfig where
  name : String
  datastore : String
  deriving DecidableEq

structure PipelineConfig where
  label : String
  producer : String
  consumers : List ConsumerConfig
  queuePrefix : String
  entityTypes : List String
  deriving DecidableEq

/-- The producer of a pipeline is polled before its consumers. -/
def PipelineConfig.services (config : PipelineConfig) : List String :=
  config.producer :: config.consumers.map ConsumerConfig.name

/-- The prefixes come from the environment. -/
def pipelineConfigs (discogsPrefix musicbrainzPrefix : String) : Dict String PipelineConfig where
  items := [
    ("discogs", ⟨"Discogs", "extractor-discogs",
      [⟨"graphinator", "neo4j"⟩, ⟨"tableinator", "postgresql"⟩], discogsPrefix,
      ["masters", "releases", "artists", "labels"]⟩),
    ("musicbrainz", ⟨"MusicBrainz", "extractor-musicbrainz",
      [⟨"brainzgraphinator", "neo4j"⟩, ⟨"brainztableinator", "postgresql"⟩], musicbrainzPrefix,
      ["release-groups", "releases", "artists", "labels"]⟩)]
  nodup := by
    show ["discogs", "musicbrainz"].Nodup
    decide

/-- A queue of the topology, with the consuming service and the entity that own it. -/
structure QueueConfig where
  name : String
  consumer : String
  entity : String

def QueueConfig.deadLetterQueue (queue : QueueConfig) : String := queue.name ++ ".dlq"

def PipelineConfig.queues (config : PipelineConfig) : List QueueConfig :=
  config.consumers.flatMap fun consumer => config.entityTypes.map fun entity =>
    ⟨config.queuePrefix ++ "-" ++ consumer.name ++ "-" ++ entity, consumer.name, entity⟩

/-- The detector of the console watches the queues of the topology. -/
def detectorConfig (configs : Dict String PipelineConfig) : DetectorConfig :=
  let queues := configs.items.flatMap fun item => item.2.queues
  { deadLetterQueues := queues.map QueueConfig.deadLetterQueue
    workQueues := queues.map QueueConfig.name
    queueOwners := queues.foldl (fun owners queue =>
      owners.set queue.name (queue.consumer, queue.entity)) Dict.empty }

/-- The broker selects the queues that match the pattern of a prefix. -/
def selectQueues (queuePrefix : String) (broker : Samples) : Samples :=
  broker.filter fun key _ => decide (queuePrefix.toList <+: key.2.toList)

/-- The health endpoint of a service fails, refuses, or answers. -/
inductive HealthAnswer where
  | failed
  | refused
  | body (status : Option String) (awaiting : Option (List String))

def pollService (name : String) : HealthAnswer → ServiceStatus
  | .failed => ⟨name, "unknown", none⟩
  | .refused => ⟨name, "unhealthy", none⟩
  | .body status awaiting => ⟨name, status.getD "healthy", awaiting⟩

/-- These are the probes of the platform, each with its group. -/
def platformProbes : List (String × String) :=
  [("catalog-api", "applications"), ("explore", "applications"), ("insights", "applications"),
    ("valkey", "data"), ("rabbitmq", "data"), ("victoria-metrics", "observability"),
    ("victoria-traces", "observability"), ("otel-collector", "observability"),
    ("grafana", "observability"), ("postgres-exporter", "observability"),
    ("valkey-exporter", "observability"), ("cadvisor", "observability"),
    ("node-exporter", "observability")]

def datastoreServices (databases : List DatabaseInfo) : List PlatformService :=
  databases.map fun database =>
    { name := if database.name.toLower = "postgresql" then "postgres" else database.name.toLower
      group := "data"
      status := if database.status = "healthy" then "healthy" else "unhealthy"
      source := "datastore" }

/-- The datastores come first in the data group. -/
def platformWithDatastores (probed : List PlatformService) (databases : List DatabaseInfo) :
    List PlatformService :=
  let firstData := probed.findIdx fun service => service.group = "data"
  probed.take firstData ++ datastoreServices databases ++ probed.drop firstData

/-- One poll reads these answers. The broker is read once for each pipeline, and there is no answer
of Neo4j without a driver. -/
structure Answers where
  timestamp : Seconds
  scrapedAt : String → Seconds
  tracker : String → RateTracker
  broker : String → Option Samples
  health : String → String → HealthAnswer
  probe : String → String
  postgresql : String
  neo4j : Option String

def readPipeline (answers : Answers) (pipelineId : String) (config : PipelineConfig) :
    PipelineMetrics :=
  collectPipeline (config.services.map fun name => pollService name (answers.health pipelineId name))
    (getQueueInfo (answers.tracker pipelineId)
      ((answers.broker pipelineId).map (selectQueues config.queuePrefix))
      (answers.scrapedAt pipelineId)).2

def collectAllMetrics (configs : Dict String PipelineConfig) (answers : Answers) : SystemMetrics :=
  let databases : List DatabaseInfo := ⟨"PostgreSQL", answers.postgresql⟩ ::
    answers.neo4j.toList.map fun status => ⟨"Neo4j", status⟩
  { pipelines := configs.mapValues (readPipeline answers)
    databases := databases
    timestamp := answers.timestamp
    platform := platformWithDatastores (platformProbes.map fun probe =>
      ⟨probe.1, probe.2, answers.probe probe.1, "probe"⟩) databases }

end OperationsConsole
