/-
This file names the problems that the items of the attention bar stand for, apart from the ids of
the items. An id tells every problem from the others except for a Grafana alert.
-/

import OperationsConsole.Browser.Attention
import OperationsConsole.Library.Listing
import OperationsConsole.Library.Numerals

namespace OperationsConsole.Browser

open Library

/-- A problem of the own reading is known by what it is about, and a datastore by its name in lower
case. -/
inductive Trouble where
  | pipelineDown (pipeline : String)
  | service (pipeline name : String)
  | queuesUnavailable (pipeline : String)
  | queue (name : String)
  | deadLetters (name : String)
  | platform (name : String)
  | datastore (name : String)
  deriving DecidableEq

namespace Trouble

/-- The page writes this id for the problem. -/
def id : Trouble → String
  | pipelineDown pipeline => s!"pipeline-down:{pipeline}"
  | service pipeline name => s!"service:{pipeline}:{name}"
  | queuesUnavailable pipeline => s!"queues-unavailable:{pipeline}"
  | queue name => s!"queue:{name}"
  | deadLetters name => s!"dlq:{name}"
  | platform name => s!"platform:{name}"
  | datastore name => s!"datastore:{name}"

/-- The id begins with the kind of the problem, up to its first colon. -/
def kind : Trouble → String
  | pipelineDown _ => "pipeline-down"
  | service _ _ => "service"
  | queuesUnavailable _ => "queues-unavailable"
  | queue _ => "queue"
  | deadLetters _ => "dlq"
  | platform _ => "platform"
  | datastore _ => "datastore"

/-- The id ends with the subject of the problem. -/
def subject : Trouble → String
  | pipelineDown pipeline => pipeline
  | service pipeline name => s!"{pipeline}:{name}"
  | queuesUnavailable pipeline => pipeline
  | queue name => name
  | deadLetters name => name
  | platform name => name
  | datastore name => name

/-- A colon in the name of a pipeline could move the end of that name in an id. -/
def Plain : Trouble → Prop
  | service pipeline _ => ':' ∉ pipeline.toList
  | _ => True

end Trouble

def serviceTrouble (builtins : Builtins) (report : PipelineReport) (service : ServiceReading) :
    Option Trouble :=
  (serviceItem builtins report.id report.label service).map fun _ =>
    .service report.id service.name

def cellTroubles (cell : AttentionCell) : List Trouble :=
  (if cell.health.kind ∈ queueKinds then [.queue cell.queue] else []) ++
    if cell.dlq.kind ∈ dlqKinds then [.deadLetters cell.queue] else []

def pipelineTroubles (builtins : Builtins) (report : PipelineReport) : List Trouble :=
  if report.down then [.pipelineDown report.id]
  else
    report.services.filterMap (serviceTrouble builtins report) ++
      if report.queuesUnavailable then [.queuesUnavailable report.id]
      else report.cells.flatMap cellTroubles

def platformTroubles (platform : List PlatformReading) : List Trouble :=
  (platform.filter fun service => service.source ≠ "datastore" ∧ service.status ∉ platformOk).map
    fun service => .platform service.name

def datastoreTroubles (builtins : Builtins) (databases : List DatabaseReading) : List Trouble :=
  (databases.filter fun database => database.status ≠ "healthy").map
    fun database => .datastore (builtins.toLowerCase database.name)

/-- These are the problems of the own reading, in the order of the sources. -/
def troubles (builtins : Builtins) (inputs : AttentionInputs) : List Trouble :=
  inputs.pipelines.flatMap (pipelineTroubles builtins) ++ platformTroubles inputs.platform ++
    datastoreTroubles builtins inputs.databases

/-- These are the items of the own reading, in the order of the sources. -/
def ownItems (builtins : Builtins) (inputs : AttentionInputs) : List Item :=
  inputs.pipelines.flatMap (pipelineItems builtins) ++ platformItems inputs.platform ++
    datastoreItems builtins inputs.databases

def sourceItems (builtins : Builtins) (inputs : AttentionInputs) : List Item :=
  ownItems builtins inputs ++ alertItems inputs.alerts

theorem derive_eq_sort (builtins : Builtins) (inputs : AttentionInputs) :
    derive builtins inputs = (sourceItems builtins inputs).insertionSort
      fun first second => second.severity.rank ≤ first.severity.rank := rfl

/-- A problem is one of the own reading, or an alert, which is known by an identity of any kind. -/
inductive Problem (κ : Type) where
  | own (trouble : Trouble)
  | alert (identity : κ)
  deriving DecidableEq

section Problems

variable {κ : Type} (builtins : Builtins) (identity : GrafanaAlert → κ) (inputs : AttentionInputs)

def problems : List (Problem κ) :=
  (troubles builtins inputs).map .own ++ inputs.alerts.map fun alert => .alert (identity alert)

/-- The own troubles are problems. -/
theorem own_mem_problems_iff (trouble : Trouble) :
    .own trouble ∈ problems builtins identity inputs ↔ trouble ∈ troubles builtins inputs := by
  simp [problems]

/-- The identities of the alerts are problems. -/
theorem alert_mem_problems_iff (known : κ) :
    .alert known ∈ problems builtins identity inputs ↔ known ∈ inputs.alerts.map identity := by
  simp [problems]

end Problems

section Ids

variable (builtins : Builtins)

/-- The item of a service has the name of its trouble. -/
theorem serviceItem_id (report : PipelineReport) (service : ServiceReading) :
    (serviceItem builtins report.id report.label service).map Item.id =
      (serviceTrouble builtins report service).map Trouble.id := by
  unfold serviceTrouble
  rw [Option.map_map]
  cases raised : serviceItem builtins report.id report.label service with
  | none => rfl
  | some item =>
      simp only [serviceItem, Option.ite_none_left_eq_some, Option.some.injEq] at raised
      rw [← raised.2]
      rfl

/-- The items of a cell have the names of its troubles. -/
theorem cellItems_id (id label : String) (cell : AttentionCell) :
    (cellItems id label cell).map Item.id = (cellTroubles cell).map Trouble.id := by
  unfold cellItems cellTroubles
  rw [List.map_append, List.map_append]
  congr 1
  · split <;> rfl
  · split <;> rfl

/-- The items of a pipeline have the names of its troubles. -/
theorem pipelineItems_id (report : PipelineReport) :
    (pipelineItems builtins report).map Item.id =
      (pipelineTroubles builtins report).map Trouble.id := by
  unfold pipelineItems pipelineTroubles
  split
  · rfl
  · rw [List.map_append, List.map_append]
    congr 1
    · rw [List.map_filterMap, List.map_filterMap]
      exact congrArg (List.filterMap · report.services)
        (funext fun service => serviceItem_id builtins report service)
    · split
      · rfl
      · rw [List.map_flatMap, List.map_flatMap]
        exact congrArg (List.flatMap · report.cells)
          (funext fun cell => cellItems_id report.id report.label cell)

/-- The items of the platform have the names of its troubles. -/
theorem platformItems_id (platform : List PlatformReading) :
    (platformItems platform).map Item.id = (platformTroubles platform).map Trouble.id := by
  unfold platformItems platformTroubles
  rw [List.map_map, List.map_map]
  rfl

/-- The items of the datastores have the names of their troubles. -/
theorem datastoreItems_id (databases : List DatabaseReading) :
    (datastoreItems builtins databases).map Item.id =
      (datastoreTroubles builtins databases).map Trouble.id := by
  unfold datastoreItems datastoreTroubles
  rw [List.map_map, List.map_map]
  rfl

/-- The ids of the own items are those of the own problems, in the same order. -/
theorem ownItems_id (inputs : AttentionInputs) :
    (ownItems builtins inputs).map Item.id = (troubles builtins inputs).map Trouble.id := by
  unfold ownItems troubles
  rw [List.map_append, List.map_append, List.map_append, List.map_append, List.map_flatMap,
    List.map_flatMap, platformItems_id, datastoreItems_id]
  congr 2
  exact congrArg (List.flatMap · inputs.pipelines)
    (funext fun report => pipelineItems_id builtins report)

/-- A listed name is the name of a trouble or of an alert. -/
theorem mem_derive_id_iff (inputs : AttentionInputs) (id : String) :
    id ∈ (derive builtins inputs).map Item.id ↔
      id ∈ (troubles builtins inputs).map Trouble.id ∨
        id ∈ (alertItems inputs.alerts).map Item.id := by
  rw [derive_eq_sort, ← ownItems_id, ← List.mem_append, ← List.map_append]
  exact ((List.perm_insertionSort _ (sourceItems builtins inputs)).map Item.id).mem_iff

end Ids

/-- The id of an alert is written from its name and its place in the answer. -/
def alertId (entry : String × Nat) : String := s!"grafana:{entry.1}:{entry.2}"

/-- The name of an alert holds its place in the list. -/
theorem alertItems_id (alerts : List GrafanaAlert) :
    (alertItems alerts).map Item.id = (alerts.map GrafanaAlert.name).zipIdx.map alertId := by
  unfold alertItems
  rw [List.map_map, List.zipIdx_map, List.map_map]
  rfl

section Injective

/-- No kind has a colon in it. -/
theorem kind_free (trouble : Trouble) : ':' ∉ trouble.kind.toList := by
  cases trouble <;> simp [Trouble.kind]

theorem toList_written (opening subject kind : String)
    (colon : opening.toList = kind.toList ++ [':']) :
    (opening ++ subject).toList = kind.toList ++ ':' :: subject.toList := by
  rw [String.toList_append, colon, List.append_assoc]
  rfl

/-- The name of a trouble is its kind, a colon and its subject. -/
theorem toList_id (trouble : Trouble) :
    trouble.id.toList = trouble.kind.toList ++ ':' :: trouble.subject.toList := by
  cases trouble with
  | pipelineDown pipeline => exact toList_written "pipeline-down:" pipeline "pipeline-down" (by simp)
  | service pipeline name =>
      have whole : "service:" ++ pipeline ++ ":" ++ name =
          "service:" ++ (pipeline ++ ":" ++ name) := by
        simp only [String.append_assoc]
      exact (congrArg String.toList whole).trans
        (toList_written "service:" (pipeline ++ ":" ++ name) "service" (by simp))
  | queuesUnavailable pipeline => exact toList_written "queues-unavailable:" pipeline "queues-unavailable" (by simp)
  | queue name => exact toList_written "queue:" name "queue" (by simp)
  | deadLetters name => exact toList_written "dlq:" name "dlq" (by simp)
  | platform name => exact toList_written "platform:" name "platform" (by simp)
  | datastore name => exact toList_written "datastore:" name "datastore" (by simp)

/-- The name of an alert is its own name between a kind and a place. -/
theorem toList_alertId (entry : String × Nat) :
    (alertId entry).toList =
      "grafana".toList ++ ':' :: (entry.1.toList ++ ':' :: Nat.toDigits 10 entry.2) := by
  simp [alertId, toString]

/-- The id of a problem of the own reading names that problem. -/
theorem id_injective (first second : Trouble) (one : first.Plain) (two : second.Plain)
    (same : first.id = second.id) : first = second := by
  have written := congrArg String.toList same
  rw [toList_id, toList_id] at written
  obtain ⟨kinds, subjects⟩ :=
    divided_first ':' _ _ _ _ (kind_free first) (kind_free second) written
  have kinds := String.toList_injective kinds
  have subjects := String.toList_injective subjects
  cases first with
  | service pipeline name =>
      cases second with
      | service other named =>
          have divided := divided_first ':' pipeline.toList other.toList name.toList named.toList
            one two (by simpa [Trouble.subject, toString] using congrArg String.toList subjects)
          rw [String.toList_injective divided.1, String.toList_injective divided.2]
      | _ => exact absurd kinds (by simp [Trouble.kind])
  | _ => cases second <;> simp_all [Trouble.kind, Trouble.subject]

/-- No trouble has the name of an alert. -/
theorem id_ne_alertId (trouble : Trouble) (entry : String × Nat) :
    trouble.id ≠ alertId entry := by
  intro same
  have written := congrArg String.toList same
  rw [toList_id, toList_alertId] at written
  obtain ⟨kinds, _⟩ := divided_first ':' _ _ _ _ (kind_free trouble) (by decide) written
  have kinds := String.toList_injective kinds
  cases trouble <;> exact absurd kinds (of_decide_eq_true rfl)

/-- The id of an alert names its name and its place. -/
theorem alertId_injective (first second : String × Nat) (same : alertId first = alertId second) :
    first = second := by
  have written := congrArg String.toList same
  rw [toList_alertId, toList_alertId] at written
  obtain ⟨_, entries⟩ := divided_first ':' _ _ _ _ (by decide) (by decide) written
  obtain ⟨names, digits⟩ := divided_last ':' _ _ _ _ (not_mem_toDigits ':' rfl first.2)
    (not_mem_toDigits ':' rfl second.2) entries
  exact Prod.ext (String.toList_injective names) (toDigits_injective first.2 second.2 digits)

end Injective

end OperationsConsole.Browser
