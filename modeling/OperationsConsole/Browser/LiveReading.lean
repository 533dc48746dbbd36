/-
This file defines a reading of the live feed with all the fields that the Overview draws.
The queue histories and the other readers take the part that `LiveData` describes.
-/

import OperationsConsole.Browser.LiveData

namespace OperationsConsole.Browser

open Library

/-- Only the extractor counts the records of each type and the seconds since the last one. -/
structure ServiceReading where
  name : String
  status : String
  extractionProgress : Option (Dict String ℤ) := none
  lastExtractionTime : Dict String (Option Seconds) := Dict.empty
  deriving DecidableEq

structure PipelineReading where
  services : List ServiceReading
  queues : List QueueInfo
  queuesAvailable : Bool := true
  down : Bool := false
  deriving DecidableEq

structure PlatformReading where
  name : String
  group : String
  status : String
  source : String := "probe"
  state : String := ""
  mode : String := "local"
  endpoint : Option String := none
  error : Option String := none
  deriving DecidableEq

structure JobReading where
  name : String
  monitored : Bool
  outcome : Option String := none
  detail : String
  lastRun : Option Seconds := none
  deriving DecidableEq

structure DatabaseReading where
  name : String
  status : String
  connectionCount : ℤ
  size : Option String := none
  error : Option String := none
  deriving DecidableEq

structure LiveReading where
  pipelines : Dict String PipelineReading
  databases : List DatabaseReading := []
  timestamp : Seconds
  platform : List PlatformReading := []
  jobs : List JobReading := []
  deriving DecidableEq

def ServiceReading.metrics (service : ServiceReading) : ServiceStatus :=
  ⟨service.name, service.status, none⟩

def PipelineReading.metrics (reading : PipelineReading) : PipelineMetrics :=
  ⟨reading.services.map ServiceReading.metrics, reading.queues, reading.queuesAvailable,
    reading.down⟩

/-- The queue histories read this part of a reading. -/
def LiveReading.metrics (reading : LiveReading) : SystemMetrics where
  pipelines := reading.pipelines.mapValues fun _ pipeline => pipeline.metrics
  databases := reading.databases.map fun database => ⟨database.name, database.status⟩
  timestamp := reading.timestamp
  platform := reading.platform.map fun service =>
    ⟨service.name, service.group, service.status, service.source⟩

end OperationsConsole.Browser
