/-
This file embeds the derivation of the attention bar from one reading, which is `Attention` in
`dashboard.js`. The queue items take the assessments of the matrix cells and do not derive them.
-/

import OperationsConsole.Browser.LiveReading
import OperationsConsole.Browser.QueueHealth
import Mathlib.Data.List.Sort

namespace OperationsConsole.Browser

inductive Tab where
  | overview
  | storage
  deriving DecidableEq

/-- The target of an item says where it leads. -/
inductive Target where
  | tab (tab : Tab)
  | service (service : String)
  | cell (pipeline consumer entity : String)
  | platform (service : String)
  | grafana (url : String)
  deriving DecidableEq

inductive ItemKind where
  | pipelineDown
  | serviceUnhealthy
  | serviceUnknown
  | queuesUnavailable
  | queue (kind : HealthKind)
  | platformUnconfigured
  | platformUnhealthy
  | platformUnreachable
  | datastoreUnavailable
  | grafanaAlert
  deriving DecidableEq

structure Item where
  id : String
  severity : HealthState
  kind : ItemKind
  text : String
  target : Target
  deriving DecidableEq

/-- The bar sees a cell of the matrix with its two assessments. -/
structure AttentionCell where
  consumer : String
  consumerLabel : String
  entity : String
  entityLabel : String
  queue : String
  health : Health
  dlq : Health
  deriving DecidableEq

structure PipelineReport where
  id : String
  label : String
  down : Bool
  queuesUnavailable : Bool
  services : List ServiceReading
  cells : List AttentionCell
  deriving DecidableEq

structure GrafanaAlert where
  name : String
  severity : String
  summary : String
  url : String
  deriving DecidableEq

def serviceOk : List String := ["healthy", "extracting", "active"]

def platformOk : List String := ["healthy", "disabled"]

/-- These are the `QUEUE_KINDS`. -/
def queueKinds : List HealthKind := [.condition .noConsumer, .condition .stalled]

/-- These are the `DLQ_KINDS`. -/
def dlqKinds : List HealthKind := [.dlqGrowing, .dlqStatic]

/-- A service that does not work has an item. -/
def serviceItem (builtins : Builtins) (id label : String) (service : ServiceReading) :
    Option Item :=
  let status := builtins.toLowerCase (if service.status = "" then "unknown" else service.status)
  if status ∈ serviceOk then none
  else
    let unhealthy := status = "unhealthy"
    some ⟨s!"service:{id}:{service.name}", if unhealthy then .crit else .warn,
      if unhealthy then .serviceUnhealthy else .serviceUnknown,
      s!"{label}: {service.name} is {status}", .service service.name⟩

/-- A cell has an item for its work queue and one for its dead-letter queue. -/
def cellItems (id label : String) (cell : AttentionCell) : List Item :=
  let place := s!"{label} {cell.entityLabel} → {cell.consumerLabel}"
  let target := Target.cell id cell.consumer cell.entity
  (if cell.health.kind ∈ queueKinds then
    [⟨s!"queue:{cell.queue}", .crit, .queue cell.health.kind, s!"{place}: {cell.health.label}",
      target⟩] else []) ++
  (if cell.dlq.kind ∈ dlqKinds then
    [⟨s!"dlq:{cell.queue}", cell.dlq.state, .queue cell.dlq.kind, s!"{place}: {cell.dlq.label}",
      target⟩] else [])

/-- A pipeline that is down is said once, and without queue metrics no cell is mentioned. -/
def pipelineItems (builtins : Builtins) (report : PipelineReport) : List Item :=
  if report.down then
    [⟨s!"pipeline-down:{report.id}", .crit, .pipelineDown,
      s!"{report.label}: pipeline is down, no service answered", .tab .overview⟩]
  else
    report.services.filterMap (serviceItem builtins report.id report.label) ++
      if report.queuesUnavailable then
        [⟨s!"queues-unavailable:{report.id}", .warn, .queuesUnavailable,
          s!"{report.label}: queue metrics unavailable", .tab .overview⟩]
      else report.cells.flatMap (cellItems report.id report.label)

/-- A datastore row has no item here, because `datastoreItems` raises it. -/
def platformItems (platform : List PlatformReading) : List Item :=
  (platform.filter fun service => service.source ≠ "datastore" ∧ service.status ∉ platformOk).map
    fun service =>
      let unconfigured := service.status = "unconfigured"
      ⟨s!"platform:{service.name}",
        if unconfigured ∨ service.group = "observability" then .warn else .crit,
        if unconfigured then .platformUnconfigured
        else if service.status = "unhealthy" then .platformUnhealthy else .platformUnreachable,
        if unconfigured then s!"{service.name} is not configured"
        else s!"{service.name} is {service.status}",
        .platform service.name⟩

def datastoreItems (builtins : Builtins) (databases : List DatabaseReading) : List Item :=
  (databases.filter fun database => database.status ≠ "healthy").map fun database =>
    ⟨s!"datastore:{builtins.toLowerCase database.name}", .crit, .datastoreUnavailable,
      s!"{database.name} is unavailable", .tab .storage⟩

def alertItems (alerts : List GrafanaAlert) : List Item :=
  alerts.zipIdx.map fun (alert, index) =>
    ⟨s!"grafana:{alert.name}:{index}", if alert.severity = "crit" then .crit else .warn,
      .grafanaAlert,
      if alert.summary = "" then alert.name else s!"{alert.name}: {alert.summary}",
      .grafana alert.url⟩

/-- Everything that the bar reads for the latest reading. -/
structure AttentionInputs where
  pipelines : List PipelineReport
  databases : List DatabaseReading
  platform : List PlatformReading
  alerts : List GrafanaAlert
  deriving DecidableEq

/-- The critical items come first, and items of one severity keep their order. -/
def derive (builtins : Builtins) (inputs : AttentionInputs) : List Item :=
  (inputs.pipelines.flatMap (pipelineItems builtins) ++ platformItems inputs.platform ++
    datastoreItems builtins inputs.databases ++ alertItems inputs.alerts).insertionSort
      fun first second => second.severity.rank ≤ first.severity.rank

/-- An item leads to a cell. -/
def Item.LeadsTo (item : Item) (pipeline consumer entity : String) : Prop :=
  item.target = .cell pipeline consumer entity

theorem serviceItem_elsewhere (builtins : Builtins) (id label : String) (service : ServiceReading)
    (item : Item) (raised : serviceItem builtins id label service = some item)
    (pipeline consumer entity : String) : ¬item.LeadsTo pipeline consumer entity := by
  have named : item.target = .service service.name := by
    simp only [serviceItem, Option.ite_none_left_eq_some, Option.some.injEq] at raised
    rw [← raised.2]
  simp [Item.LeadsTo, named]

theorem platformItems_elsewhere (platform : List PlatformReading) (item : Item)
    (member : item ∈ platformItems platform) (pipeline consumer entity : String) :
    ¬item.LeadsTo pipeline consumer entity := by
  unfold platformItems at member
  rw [List.mem_map] at member
  obtain ⟨service, _, rfl⟩ := member
  simp [Item.LeadsTo]

theorem datastoreItems_elsewhere (builtins : Builtins) (databases : List DatabaseReading)
    (item : Item) (member : item ∈ datastoreItems builtins databases)
    (pipeline consumer entity : String) : ¬item.LeadsTo pipeline consumer entity := by
  unfold datastoreItems at member
  rw [List.mem_map] at member
  obtain ⟨database, _, rfl⟩ := member
  simp [Item.LeadsTo]

theorem alertItems_elsewhere (alerts : List GrafanaAlert) (item : Item)
    (member : item ∈ alertItems alerts) (pipeline consumer entity : String) :
    ¬item.LeadsTo pipeline consumer entity := by
  unfold alertItems at member
  rw [List.mem_map] at member
  obtain ⟨alert, _, rfl⟩ := member
  simp [Item.LeadsTo]

/-- Every item of a cell leads to that cell. -/
theorem cellItems_target (id label : String) (cell : AttentionCell) (item : Item)
    (member : item ∈ cellItems id label cell) :
    item.target = .cell id cell.consumer cell.entity := by
  unfold cellItems at member
  dsimp only at member
  rw [List.mem_append] at member
  rcases member with queue | dlq
  · split at queue
    · rw [List.mem_singleton.mp queue]
    · simp at queue
  · split at dlq
    · rw [List.mem_singleton.mp dlq]
    · simp at dlq

/-- A cell has a critical item of a kind exactly for a critical assessment of that kind. -/
theorem critical_cellItem_iff (id label : String) (cell : AttentionCell) (kind : HealthKind) :
    (∃ item ∈ cellItems id label cell, item.severity = .crit ∧ item.kind = .queue kind) ↔
      cell.health.kind ∈ queueKinds ∧ cell.health.kind = kind ∨
        cell.dlq.kind ∈ dlqKinds ∧ cell.dlq.state = .crit ∧ cell.dlq.kind = kind := by
  unfold cellItems
  dsimp only
  constructor
  · rintro ⟨item, member, critical, same⟩
    rw [List.mem_append] at member
    rcases member with queue | dlq
    · split at queue
      · rename_i listed
        rw [List.mem_singleton] at queue
        rw [queue] at same
        exact .inl ⟨listed, ItemKind.queue.inj same⟩
      · simp at queue
    · split at dlq
      · rename_i listed
        rw [List.mem_singleton] at dlq
        rw [dlq] at critical same
        exact .inr ⟨listed, critical, ItemKind.queue.inj same⟩
      · simp at dlq
  · rintro (⟨listed, same⟩ | ⟨listed, critical, same⟩)
    · rw [if_pos listed]
      exact ⟨_, List.mem_append_left _ (List.mem_singleton_self _), rfl, by rw [same]⟩
    · rw [if_pos listed]
      exact ⟨_, List.mem_append_right _ (List.mem_singleton_self _), critical, by rw [same]⟩

/-- The items of a pipeline that lead to a cell are those of its cells. -/
theorem mem_pipelineItems_cell_iff (builtins : Builtins) (report : PipelineReport) (item : Item)
    (pipeline consumer entity : String) (leads : item.LeadsTo pipeline consumer entity) :
    item ∈ pipelineItems builtins report ↔
      report.down = false ∧ report.queuesUnavailable = false ∧
        ∃ cell ∈ report.cells, item ∈ cellItems report.id report.label cell := by
  unfold pipelineItems
  cases report.down with
  | true =>
      constructor
      · intro member
        rw [if_pos rfl, List.mem_singleton] at member
        rw [member] at leads
        exact absurd leads (by simp [Item.LeadsTo])
      · rintro ⟨up, _⟩
        simp at up
  | false =>
      have quiet : item ∉ report.services.filterMap
          (serviceItem builtins report.id report.label) := by
        intro member
        obtain ⟨service, _, raised⟩ := List.mem_filterMap.mp member
        exact serviceItem_elsewhere builtins _ _ service item raised _ _ _ leads
      rw [if_neg (by decide), List.mem_append]
      cases report.queuesUnavailable with
      | true =>
          constructor
          · rintro (service | single)
            · exact absurd service quiet
            · rw [if_pos rfl, List.mem_singleton] at single
              rw [single] at leads
              exact absurd leads (by simp [Item.LeadsTo])
          · rintro ⟨_, available, _⟩
            simp at available
      | false =>
          rw [if_neg (by decide), List.mem_flatMap]
          constructor
          · rintro (service | cells)
            · exact absurd service quiet
            · exact ⟨rfl, rfl, cells⟩
          · rintro ⟨_, _, cells⟩
            exact .inr cells

/-- Only the cells of the reported pipelines have items that lead to a cell. -/
theorem mem_derive_cell_iff (builtins : Builtins) (inputs : AttentionInputs) (item : Item)
    (pipeline consumer entity : String) (leads : item.LeadsTo pipeline consumer entity) :
    item ∈ derive builtins inputs ↔
      ∃ report ∈ inputs.pipelines, report.down = false ∧ report.queuesUnavailable = false ∧
        ∃ cell ∈ report.cells, item ∈ cellItems report.id report.label cell := by
  unfold derive
  rw [List.mem_insertionSort]
  simp only [List.mem_append, List.mem_flatMap]
  constructor
  · rintro (((⟨report, member, raised⟩ | platform) | datastore) | alert)
    · exact ⟨report, member, (mem_pipelineItems_cell_iff builtins report item _ _ _ leads).mp raised⟩
    · exact absurd leads (platformItems_elsewhere _ item platform _ _ _)
    · exact absurd leads (datastoreItems_elsewhere builtins _ item datastore _ _ _)
    · exact absurd leads (alertItems_elsewhere _ item alert _ _ _)
  · rintro ⟨report, member, raised⟩
    exact .inl (.inl (.inl ⟨report, member,
      (mem_pipelineItems_cell_iff builtins report item _ _ _ leads).mpr raised⟩))

end OperationsConsole.Browser
