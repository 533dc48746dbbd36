/-
This file defines the readings that one poll of the collection loop produces.
It keeps the fields that the event detector and the collector read or write.
-/

import Mathlib.Algebra.Order.Field.Rat
import OperationsConsole.Library.Dict

namespace OperationsConsole

open Library

/-- Instants and durations are exact numbers of seconds. -/
abbrev Seconds := ℚ

inductive ConditionKind where
  | noConsumer
  | stalled
  | awaitingMarker
  deriving DecidableEq

/-- This is the text of `KIND_NO_CONSUMER`, `KIND_STALLED`, and `KIND_AWAITING_MARKER`. -/
def ConditionKind.text : ConditionKind → String
  | .noConsumer => "no-consumer"
  | .stalled => "stalled"
  | .awaitingMarker => "awaiting-marker"

/-- A work queue's standing problem, with the label that the matrix prints. -/
structure QueueCondition where
  kind : ConditionKind
  label : String
  deriving DecidableEq

/-- A rate is absent when it is not computable in this interval. -/
structure QueueInfo where
  name : String
  messages : ℤ
  messagesReady : ℤ
  messagesUnacknowledged : ℤ
  consumers : ℤ
  messageRate : Option ℚ
  ackRate : Option ℚ
  condition : Option QueueCondition := none
  deriving DecidableEq

/-- An absent awaiting list means that the service does not report the field. -/
structure ServiceStatus where
  name : String
  status : String
  awaitingExtractionComplete : Option (List String) := none
  deriving DecidableEq

structure PlatformService where
  name : String
  group : String
  status : String
  source : String := "probe"
  deriving DecidableEq

structure DatabaseInfo where
  name : String
  status : String
  deriving DecidableEq

/-- The queues are empty and not available after a failed broker scrape. -/
structure PipelineMetrics where
  services : List ServiceStatus
  queues : List QueueInfo
  queuesAvailable : Bool := true
  down : Bool := false
  deriving DecidableEq

structure SystemMetrics where
  pipelines : Dict String PipelineMetrics
  databases : List DatabaseInfo := []
  timestamp : Seconds
  platform : List PlatformService := []
  deriving DecidableEq

inductive Level where
  | info
  | warning
  | error
  deriving DecidableEq

/-- An event of the feed, with its server-local number. -/
structure Event where
  id : Nat
  timestamp : Seconds
  level : Level
  kind : String
  subject : String
  message : String
  deriving DecidableEq

end OperationsConsole
