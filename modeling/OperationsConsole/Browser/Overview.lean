/-
This file embeds how the `Dashboard` class in `dashboard.js` fans a reading out over the Overview.
It also embeds the three views of a cell: the matrix, the attention bar, and the headline.
-/

import OperationsConsole.Browser.Attention
import OperationsConsole.Browser.RunProgress
import OperationsConsole.Library.Loop

namespace OperationsConsole.Browser

open Library

inductive ExtractState where
  | processing (count : ℤ)
  | idle
  deriving DecidableEq

/-- The badge of a service has the identifier of its pipeline and its name. -/
structure ServiceCards where
  badges : Dict String String := Dict.empty
  extracts : Dict String ExtractState := Dict.empty
  totalRecords : Dict String ℤ := Dict.empty
  deriving DecidableEq

/-- The Overview draws these items of a reading, and it keeps the reading for the attention bar. -/
structure Shown where
  sections : List String := []
  services : ServiceCards := {}
  pipelinesDown : Dict String Bool := Dict.empty
  queuesUnavailable : Dict String Bool := Dict.empty
  history : History := Dict.empty
  platformRows : List (List PlatformReading) := []
  jobRows : List JobReading := []
  datastores : Dict String DatabaseReading := Dict.empty
  lastUpdated : Option Seconds := none
  lastReading : Option (Sent LiveReading) := none
  deriving DecidableEq

/-- The matrix draws a badge for the producer and for every consumer of a pipeline. -/
def Layout.badges (layout : Layout) : List String :=
  layout.pipelines.flatMap fun pipeline =>
    (pipeline.producer :: pipeline.consumers.map fun consumer => consumer.name).map fun name =>
      s!"{pipeline.id}-{name}"

/-- An entity type is active if its last extraction was within 30 seconds. -/
def extractState (service : ServiceReading) (progress : Dict String ℤ) (entity : String) :
    ExtractState :=
  match service.lastExtractionTime.get? entity with
  | some (some elapsed) =>
      if elapsed < 30 then .processing ((progress.get? entity).getD 0) else .idle
  | _ => .idle

/-- The producer also draws the state of every entity type. -/
def updateService (layout : Layout) (pipelineName : String) (cards : ServiceCards)
    (service : ServiceReading) : ServiceCards :=
  let card := s!"{pipelineName}-{service.name}"
  let badged := if card ∈ layout.badges then
    { cards with badges := cards.badges.set card service.status } else cards
  match layout.pipeline? pipelineName, service.extractionProgress with
  | some pipeline, some progress =>
      if service.name = pipeline.producer then
        { badged with
          extracts := pipeline.entityTypes.foldl (fun extracts entity =>
            extracts.set s!"{card}-{entity}" (extractState service progress entity)) badged.extracts
          totalRecords := badged.totalRecords.set card ((progress.get? "total").getD 0) }
      else badged
  | _, _ => badged

def updateServices (layout : Layout) (pipelineName : String) (services : List ServiceReading)
    (cards : ServiceCards) : ServiceCards :=
  services.foldl (updateService layout pipelineName) cards

/-- The page has one list for each of these groups. -/
def platformGroups : List String := ["applications", "data", "observability"]

def platformLists (platform : List PlatformReading) : List (List PlatformReading) :=
  platformGroups.map fun group => platform.filter fun service => service.group = group

/-- The page has a card for each of these datastores. -/
def updateDatabases (builtins : Builtins) (databases : List DatabaseReading)
    (datastores : Dict String DatabaseReading) : Dict String DatabaseReading :=
  databases.foldl (fun datastores database =>
    let key := builtins.toLowerCase database.name
    if key = "neo4j" ∨ key = "postgresql" then datastores.set key database else datastores)
    datastores

section Pipelines

variable (layout : Layout) (period : Nat) (time : Seconds)

def setPipelineDown (pipelineName : String) (down : Bool) (pipelines : Dict String Bool) :
    Dict String Bool :=
  if (layout.pipeline? pipelineName).isSome then pipelines.set pipelineName down else pipelines

/-- A pipeline outside the layout has no histories. -/
def recordQueues (pipelineName : String) (report : PipelineReading) (history : History) : History :=
  match layout.pipeline? pipelineName with
  | none => history
  | some pipeline => updateQueues pipeline.queues ⟨period, report.metrics⟩ time history

/-- This is the pass of the loop over the pipelines of a reading. -/
def updatePipeline (shown : Shown) (item : String × PipelineReading) : Shown :=
  { shown with
    services := updateServices layout item.1 item.2.services shown.services
    pipelinesDown := setPipelineDown layout item.1 item.2.down shown.pipelinesDown
    queuesUnavailable := shown.queuesUnavailable.set item.1 (!item.2.queuesAvailable)
    history := recordQueues layout period time item.1 item.2 shown.history }

end Pipelines

/-- The reading updates every pipeline it reports, and then everything else. -/
def Shown.update (builtins : Builtins) (layout : Layout) (shown : Shown)
    (reading : Sent LiveReading) : Shown :=
  let data := reading.value
  let updated := data.pipelines.items.foldl
    (updatePipeline layout reading.period data.timestamp) shown
  { updated with
    sections := (layout.pipelines.filter fun pipeline =>
      (data.pipelines.get? pipeline.id).isSome).map fun pipeline => pipeline.id
    platformRows := platformLists data.platform
    jobRows := data.jobs
    datastores := updateDatabases builtins data.databases updated.datastores
    lastUpdated := some data.timestamp
    lastReading := some reading }

/-- The queue histories of a reading are those that the session's page keeps. -/
theorem history_update (builtins : Builtins) (layout : Layout) (shown : Shown)
    (reading : Sent LiveReading) :
    (shown.update builtins layout reading).history =
      updatePipelines layout.topology ⟨reading.period, reading.value.metrics⟩ shown.history := by
  have folded : List.foldl (fun history item =>
        recordQueues layout reading.period reading.value.timestamp item.1 item.2 history)
        shown.history reading.value.pipelines.items =
      Shown.history (List.foldl (updatePipeline layout reading.period reading.value.timestamp) shown
        reading.value.pipelines.items) :=
    List.foldl_hom Shown.history fun _ _ => rfl
  change Shown.history (List.foldl _ _ _) = List.foldl _ _ (List.map _ _)
  rw [← folded, List.foldl_map]
  congr 1
  funext history item
  rw [layout.find?_topology]
  unfold recordQueues
  cases layout.pipeline? item.1 with
  | none => rfl
  | some pipeline => rfl

/-- Over every run of readings the Overview keeps the histories that the session's page keeps. -/
theorem history_readings (builtins : Builtins) (layout : Layout) (readings : List (Sent LiveReading))
    (shown : Shown) :
    (readings.foldl (Shown.update builtins layout) shown).history =
      (readings.map fun reading => ⟨reading.period, reading.value.metrics⟩).foldl
        (fun history reading => updatePipelines layout.topology reading history) shown.history := by
  induction readings generalizing shown with
  | nil => rfl
  | cons reading later ih =>
      rw [List.foldl_cons, List.map_cons, List.foldl_cons, ih, history_update]

/-- The Overview waits for its layout, and it also keeps the alerts, the runs, and their numbers. -/
structure Overview extends Shown where
  layout : Option Layout := none
  pendingData : Option (Sent LiveReading) := none
  alerts : List GrafanaAlert := []
  runs : Dict String Run := Dict.empty
  runProgress : Dict String ProgressNumbers := Dict.empty
  deriving DecidableEq

/-- The assessed state of a cell joins its work queue and its dead-letter queue. -/
structure CellModel where
  queue : Option TopologyQueue
  samples : List (Sent Sample)
  dlqSamples : List (Sent Sample)
  unavailable : Bool
  health : Health
  dlq : Health
  lag : Option (WithTop ℚ)
  state : HealthState
  trend : Direction × ℤ

namespace Overview

/-- Without a layout the latest reading waits, and with one it is drawn. -/
def updateDashboard (builtins : Builtins) (page : Overview) (reading : Sent LiveReading) :
    Overview :=
  match page.layout with
  | none => { page with pendingData := some reading }
  | some layout => { page with toShown := page.toShown.update builtins layout reading }

/-- The layout is drawn once, and no history is older than it. -/
def renderTopology (page : Overview) (layout : Layout) : Overview :=
  if page.layout.isSome then page
  else { page with layout := some layout, history := Dict.empty }

/-- The reading that waited for the layout is applied once. -/
def applyPending (builtins : Builtins) (page : Overview) : Overview :=
  match page.layout, page.pendingData with
  | some _, some pending => { page with pendingData := none }.updateDashboard builtins pending
  | _, _ => page

section Steps

variable (builtins : Builtins) (page : Overview) (layout : Layout) (reading : Sent LiveReading)

theorem updateDashboard_waiting (waits : page.layout = none) :
    page.updateDashboard builtins reading = { page with pendingData := some reading } := by
  unfold updateDashboard
  split
  · rfl
  · rename_i laid
    exact absurd (waits.symm.trans laid) (by simp)

theorem updateDashboard_drawn (laid : page.layout = some layout) :
    page.updateDashboard builtins reading =
      { page with toShown := page.toShown.update builtins layout reading } := by
  unfold updateDashboard
  split
  · rename_i waits
    exact absurd (waits.symm.trans laid) (by simp)
  · rename_i other same
    rw [Option.some.inj (same.symm.trans laid)]

theorem applyPending_waiting (waits : page.layout = none) : page.applyPending builtins = page := by
  unfold applyPending
  split
  · rename_i laid _
    exact absurd (waits.symm.trans laid) (by simp)
  · rfl

theorem applyPending_nothing (nothing : page.pendingData = none) :
    page.applyPending builtins = page := by
  unfold applyPending
  split
  · rename_i pending
    exact absurd (nothing.symm.trans pending) (by simp)
  · rfl

theorem applyPending_drawn (laid : page.layout = some layout)
    (pending : page.pendingData = some reading) :
    page.applyPending builtins =
      { page with
        toShown := page.toShown.update builtins layout reading
        pendingData := none } := by
  unfold applyPending
  split
  · rename_i other same
    rw [Option.some.inj (same.symm.trans pending)]
    exact updateDashboard_drawn builtins { page with pendingData := none } layout reading laid
  · rename_i missing
    exact absurd pending (missing layout reading laid)

end Steps

section Cells

variable (builtins : Builtins) (page : Overview)

def unavailable (pipeline : LayoutPipeline) : Bool :=
  page.queuesUnavailable.get? pipeline.id = some true

def cellModel (pipeline : LayoutPipeline) (consumer : LayoutConsumer) (entity : String) :
    CellModel :=
  let queue := consumer.queues.find? fun queue => queue.entity = entity
  let samples := (queue.bind fun queue => page.history.get? queue.name).getD []
  let dlqSamples := (queue.bind fun queue => page.history.get? queue.deadLetterQueue).getD []
  let unavailable := page.unavailable pipeline
  let health := if unavailable then ⟨.unknown, .unavailable, "metrics unavailable"⟩
    else assessQueue samples
  let dlq := if unavailable then ⟨.unknown, .unavailable, "DLQ unavailable"⟩
    else assessDlq dlqSamples builtins
  ⟨queue, samples, dlqSamples, unavailable, health, dlq, lagSeconds samples,
    worst [health.state, dlq.state], trend samples⟩

/-- The bar sees the cells of a pipeline that have a queue. -/
def attentionCells (pipeline : LayoutPipeline) : List AttentionCell :=
  pipeline.consumers.flatMap fun consumer => pipeline.entityTypes.filterMap fun entity =>
    let model := page.cellModel builtins pipeline consumer entity
    model.queue.map fun queue =>
      ⟨consumer.name, consumer.label, entity, entityLabel builtins entity, queue.name,
        model.health, model.dlq⟩

def pipelineReport (pipeline : LayoutPipeline) (report : PipelineReading) : PipelineReport :=
  ⟨pipeline.id, pipeline.label, report.down, page.unavailable pipeline, report.services,
    page.attentionCells builtins pipeline⟩

/-- The bar reads the reported pipelines of the layout. -/
def attentionInputs : AttentionInputs where
  pipelines := (page.layout.elim [] Layout.pipelines).filterMap fun pipeline =>
    (page.lastReading.bind fun reading => reading.value.pipelines.get? pipeline.id).map
      (page.pipelineReport builtins pipeline)
  databases := page.lastReading.elim [] fun reading => reading.value.databases
  platform := page.lastReading.elim [] fun reading => reading.value.platform
  alerts := page.alerts

def attentionItems : List Item := derive builtins (page.attentionInputs builtins)

/-- The run sees the same cells with its expected and loaded counts. -/
def progressCells (pipeline : LayoutPipeline) : List ProgressCell :=
  let data := (page.runProgress.get? pipeline.id).bind ProgressNumbers.data
  pipeline.consumers.flatMap fun consumer => pipeline.entityTypes.filterMap fun entity =>
    let model := page.cellModel builtins pipeline consumer entity
    let totals := data.bind fun data =>
      data.entities.reverse.find? fun totals => totals.entity = entity
    let label := entityLabel builtins entity
    model.queue.map fun queue =>
      let acked := data.bind fun data =>
        data.queues.reverse.find? fun acked => acked.queue = queue.name
      { consumer := consumer.name
        consumerLabel := consumer.label
        entity := entity
        entityLabel := label
        queue := queue.name
        health := model.health
        dlq := model.dlq
        expected := totals.bind EntityTotals.expected
        extracted := totals.bind EntityTotals.extracted
        fileProgress := totals.bind EntityTotals.fileProgress
        loaded := acked.bind QueueProgress.loaded
        dlqDepth := ((latest model.dlqSamples).map fun last => last.reading.messages).getD 0
        queueDepth := (latest model.samples).map fun last => last.reading.messages
        meanAck := meanAckRate model.samples
        gap := progressGap label consumer.label totals acked }

def running (pipeline : LayoutPipeline) : Bool := (page.runs.get? pipeline.id).any Run.isRunning

def runHeadline (pipeline : LayoutPipeline) : Option Headline :=
  headline (page.running pipeline) ((page.runProgress.get? pipeline.id).bind ProgressNumbers.error)
    (page.progressCells builtins pipeline)

end Cells

end Overview

/-- One step of the Overview is a reading, the layout, or an answer that it keeps. -/
inductive OverviewInput where
  | reading (reading : Sent LiveReading)
  | topology (layout : Layout)
  | pending
  | alerts (alerts : List GrafanaAlert)
  | runs (runs : Dict String Run)
  | progress (pipeline : String) (numbers : Option ProgressNumbers)

def Overview.step (builtins : Builtins) (page : Overview) : OverviewInput → Overview
  | .reading reading => page.updateDashboard builtins reading
  | .topology layout => page.renderTopology layout
  | .pending => page.applyPending builtins
  | .alerts alerts => { page with alerts := alerts }
  | .runs runs => { page with runs := runs }
  | .progress pipeline numbers =>
      { page with runProgress := match numbers with
        | none => page.runProgress.erase pipeline
        | some numbers => page.runProgress.set pipeline numbers }

/-- The Overview after the steps of a history, the newest first. -/
def overviewAfter (builtins : Builtins) (history : List OverviewInput) : Overview :=
  after (Overview.step builtins) {} history

end OperationsConsole.Browser
