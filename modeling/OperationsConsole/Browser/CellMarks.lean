/-
This file states what the matrix, the attention bar, and the headline show of one cell.
All three show exactly the critical marks of its two assessments.
-/

import OperationsConsole.Browser.Overview

namespace OperationsConsole.Browser

open Library

/-- The critical marks of a cell are the kinds of its critical assessments. -/
def CellModel.marks (model : CellModel) : List HealthKind :=
  ([model.health, model.dlq].filter fun health => health.state = .crit).map Health.kind

theorem CellModel.mem_marks_iff (model : CellModel) (kind : HealthKind) :
    kind ∈ model.marks ↔ model.health.state = .crit ∧ model.health.kind = kind ∨
      model.dlq.state = .crit ∧ model.dlq.kind = kind := by
  simp [CellModel.marks, List.mem_filter, or_and_right, exists_or, and_assoc]

section Model

variable (builtins : Builtins) (page : Overview) (pipeline : LayoutPipeline)
variable (consumer : LayoutConsumer) (entity : String)

/-- The matrix cell of a pipeline, a consumer, and an entity type. -/
def Overview.marks : List HealthKind := (page.cellModel builtins pipeline consumer entity).marks

/-- Without queue metrics neither assessment is made. -/
theorem cellModel_unavailable (quiet : page.unavailable pipeline = true) :
    let model := page.cellModel builtins pipeline consumer entity
    model.state = .unknown ∧ model.health.kind = .unavailable ∧ model.dlq.kind = .unavailable ∧
      model.health.state = .unknown ∧ model.dlq.state = .unknown := by
  simp [Overview.cellModel, quiet, worst, HealthState.rank]

/-- With queue metrics the assessments are those of the two histories. -/
theorem cellModel_available (available : page.unavailable pipeline = false) :
    let model := page.cellModel builtins pipeline consumer entity
    model.health = assessQueue model.samples ∧ model.dlq = assessDlq model.dlqSamples builtins := by
  simp [Overview.cellModel, available]

/-- The work queue of a cell is assessed, or its metrics are unavailable. -/
theorem cellModel_health :
    (page.cellModel builtins pipeline consumer entity).health =
        ⟨.unknown, .unavailable, "metrics unavailable"⟩ ∨
      (page.cellModel builtins pipeline consumer entity).health =
        assessQueue (page.cellModel builtins pipeline consumer entity).samples := by
  cases quiet : page.unavailable pipeline with
  | true => exact .inl (by simp [Overview.cellModel, quiet])
  | false => exact .inr (cellModel_available builtins page pipeline consumer entity quiet).1

/-- So is the dead-letter queue. -/
theorem cellModel_dlq :
    (page.cellModel builtins pipeline consumer entity).dlq =
        ⟨.unknown, .unavailable, "DLQ unavailable"⟩ ∨
      (page.cellModel builtins pipeline consumer entity).dlq =
        assessDlq (page.cellModel builtins pipeline consumer entity).dlqSamples builtins := by
  cases quiet : page.unavailable pipeline with
  | true => exact .inl (by simp [Overview.cellModel, quiet])
  | false => exact .inr (cellModel_available builtins page pipeline consumer entity quiet).2

/-- A cell without a queue has no samples. -/
theorem cellModel_without_queue
    (missing : (page.cellModel builtins pipeline consumer entity).queue = none) :
    let model := page.cellModel builtins pipeline consumer entity
    model.samples = [] ∧ model.dlqSamples = [] := by
  change consumer.queues.find? (fun queue => queue.entity = entity) = none at missing
  simp [Overview.cellModel, missing]

/-- The state of a cell is critical exactly with a mark. -/
theorem state_crit_iff :
    (page.cellModel builtins pipeline consumer entity).state = .crit ↔
      ∃ kind, kind ∈ page.marks builtins pipeline consumer entity := by
  change worst [_, _] = .crit ↔ _
  rw [worst_eq_crit_iff]
  simp only [Overview.marks, CellModel.mem_marks_iff]
  constructor
  · rintro (queue | dlq)
    · exact ⟨_, .inl ⟨queue, rfl⟩⟩
    · exact ⟨_, .inr ⟨dlq, rfl⟩⟩
  · rintro ⟨kind, ⟨queue, _⟩ | ⟨dlq, _⟩⟩
    · exact .inl queue
    · exact .inr dlq

/-- The marks of a cell with queue metrics are those of its histories. -/
theorem marks_available (kind : HealthKind)
    (marked : kind ∈ page.marks builtins pipeline consumer entity) :
    page.unavailable pipeline = false ∧
      ∃ queue, (page.cellModel builtins pipeline consumer entity).queue = some queue := by
  rw [Overview.marks, CellModel.mem_marks_iff] at marked
  cases quiet : page.unavailable pipeline with
  | true =>
      have both := cellModel_unavailable builtins page pipeline consumer entity quiet
      simp [both.2.2.2.1, both.2.2.2.2] at marked
  | false =>
      refine ⟨rfl, ?_⟩
      have both := cellModel_available builtins page pipeline consumer entity quiet
      cases found : (page.cellModel builtins pipeline consumer entity).queue with
      | some queue => exact ⟨queue, rfl⟩
      | none =>
          have empty := cellModel_without_queue builtins page pipeline consumer entity found
          dsimp only at both empty
          rw [both.1, both.2, empty.1, empty.2] at marked
          simp [assessQueue, assessDlq, latest] at marked

/-- The attention bar and the headline recognise a mark of a work queue by its kind. -/
theorem health_crit_iff :
    (page.cellModel builtins pipeline consumer entity).health.state = .crit ↔
      (page.cellModel builtins pipeline consumer entity).health.kind ∈ queueKinds := by
  rcases cellModel_health builtins page pipeline consumer entity with same | same
  · rw [same]
    simp [queueKinds]
  · rw [same, assessQueue_crit_iff]
    simp [queueKinds]

/-- They recognise a mark of a dead-letter queue by its growth. -/
theorem dlq_crit_iff :
    (page.cellModel builtins pipeline consumer entity).dlq.state = .crit ↔
      (page.cellModel builtins pipeline consumer entity).dlq.kind = .dlqGrowing := by
  rcases cellModel_dlq builtins page pipeline consumer entity with same | same
  · rw [same]
    simp
  · rw [same]
    rcases assessDlq_cases (page.cellModel builtins pipeline consumer entity).dlqSamples
      builtins with ⟨kind, state⟩ | ⟨kind, state⟩ | ⟨kind | kind, state⟩
    all_goals simp [kind, state]

/-- The headline recognises the same marks by its own table. -/
theorem health_blocker_iff :
    (blocker (page.cellModel builtins pipeline consumer entity).health.kind).isSome ↔
      (page.cellModel builtins pipeline consumer entity).health.state = .crit := by
  rw [blocker_isSome_iff]
  rcases cellModel_health builtins page pipeline consumer entity with same | same
  · rw [same]
    simp
  · rw [same, assessQueue_crit_iff]
    simp [assessQueue_ne_growing]

theorem dlq_blocker_iff :
    (blocker (page.cellModel builtins pipeline consumer entity).dlq.kind).isSome ↔
      (page.cellModel builtins pipeline consumer entity).dlq.state = .crit := by
  rw [blocker_isSome_iff]
  rcases cellModel_dlq builtins page pipeline consumer entity with same | same
  · rw [same]
    simp
  · rw [same]
    rcases assessDlq_cases (page.cellModel builtins pipeline consumer entity).dlqSamples
      builtins with ⟨kind, state⟩ | ⟨kind, state⟩ | ⟨kind | kind, state⟩
    all_goals simp [kind, state]

/-- A cell blocks a run exactly with one of its marks. -/
theorem blocker_iff_mark (text : String) :
    (blocker (page.cellModel builtins pipeline consumer entity).health.kind = some text ∨
        blocker (page.cellModel builtins pipeline consumer entity).dlq.kind = some text) ↔
      ∃ kind ∈ page.marks builtins pipeline consumer entity, blocker kind = some text := by
  simp only [Overview.marks, CellModel.mem_marks_iff]
  constructor
  · rintro (queue | dlq)
    · have state := (health_blocker_iff builtins page pipeline consumer entity).mp
        (Option.isSome_iff_exists.mpr ⟨text, queue⟩)
      exact ⟨_, .inl ⟨state, rfl⟩, queue⟩
    · have state := (dlq_blocker_iff builtins page pipeline consumer entity).mp
        (Option.isSome_iff_exists.mpr ⟨text, dlq⟩)
      exact ⟨_, .inr ⟨state, rfl⟩, dlq⟩
  · rintro ⟨kind, ⟨_, same⟩ | ⟨_, same⟩, found⟩
    · rw [← same] at found
      exact .inl found
    · rw [← same] at found
      exact .inr found

/-- Every mark stops a run. -/
theorem blocker_of_mark (kind : HealthKind)
    (marked : kind ∈ page.marks builtins pipeline consumer entity) :
    ∃ text, blocker kind = some text := by
  rw [← Option.isSome_iff_exists]
  rw [Overview.marks, CellModel.mem_marks_iff] at marked
  rcases marked with ⟨state, same⟩ | ⟨state, same⟩
  · rw [← same]
    exact (health_blocker_iff builtins page pipeline consumer entity).mpr state
  · rw [← same]
    exact (dlq_blocker_iff builtins page pipeline consumer entity).mpr state

end Model

section Views

variable (builtins : Builtins) (page : Overview) (pipeline : LayoutPipeline)

/-- The bar sees the cells of the matrix that have a queue. -/
theorem mem_attentionCells_iff (cell : AttentionCell) :
    cell ∈ page.attentionCells builtins pipeline ↔
      ∃ consumer ∈ pipeline.consumers, ∃ entity ∈ pipeline.entityTypes, ∃ queue,
        (page.cellModel builtins pipeline consumer entity).queue = some queue ∧
          cell = ⟨consumer.name, consumer.label, entity, entityLabel builtins entity, queue.name,
            (page.cellModel builtins pipeline consumer entity).health,
            (page.cellModel builtins pipeline consumer entity).dlq⟩ := by
  simp only [Overview.attentionCells, List.mem_flatMap, List.mem_filterMap, Option.map_eq_some_iff]
  simp only [eq_comm (a := cell)]

/-- A critical item of the bar that leads to a cell is a mark of that cell. -/
theorem mark_of_item (layout : Layout) (drawn : page.layout = some layout)
    (known : pipeline ∈ layout.pipelines) (consumer : LayoutConsumer)
    (bound : consumer ∈ pipeline.consumers) (entity : String) (kind : HealthKind) (item : Item)
    (raised : item ∈ page.attentionItems builtins) (critical : item.severity = .crit)
    (same : item.kind = .queue kind) (leads : item.LeadsTo pipeline.id consumer.name entity) :
    kind ∈ page.marks builtins pipeline consumer entity := by
  obtain ⟨report, reported, _, _, cell, shown, member⟩ :=
    (mem_derive_cell_iff builtins _ item _ _ _ leads).mp raised
  obtain ⟨other, listed, found⟩ := List.mem_filterMap.mp reported
  obtain ⟨reading, _, rfl⟩ := Option.map_eq_some_iff.mp found
  rw [drawn] at listed
  obtain ⟨otherConsumer, otherBound, otherEntity, _, queue, _, rfl⟩ :=
    (mem_attentionCells_iff builtins page other cell).mp shown
  have target := (cellItems_target _ _ _ item member).symm.trans leads
  rw [Target.cell.injEq] at target
  have samePipeline := layout.identified other listed pipeline known target.1
  subst samePipeline
  have sameConsumer := other.named otherConsumer otherBound consumer bound target.2.1
  subst sameConsumer
  have sameEntity : otherEntity = entity := target.2.2
  subst sameEntity
  rw [Overview.marks, CellModel.mem_marks_iff]
  rcases (critical_cellItem_iff _ _ _ kind).mp ⟨item, member, critical, same⟩ with
    ⟨listedKind, equal⟩ | ⟨_, state, equal⟩
  · exact .inl ⟨(health_crit_iff builtins page other otherConsumer otherEntity).mpr listedKind,
      equal⟩
  · exact .inr ⟨state, equal⟩

/-- Every mark of a cell of a reported pipeline has a critical item that leads to the cell. -/
theorem item_of_mark (layout : Layout) (drawn : page.layout = some layout)
    (known : pipeline ∈ layout.pipelines) (reading : Sent LiveReading)
    (last : page.lastReading = some reading) (report : PipelineReading)
    (reported : reading.value.pipelines.get? pipeline.id = some report) (up : report.down = false)
    (consumer : LayoutConsumer) (bound : consumer ∈ pipeline.consumers) (entity : String)
    (typed : entity ∈ pipeline.entityTypes) (kind : HealthKind)
    (marked : kind ∈ page.marks builtins pipeline consumer entity) :
    ∃ item ∈ page.attentionItems builtins, item.severity = .crit ∧ item.kind = .queue kind ∧
      item.LeadsTo pipeline.id consumer.name entity := by
  obtain ⟨available, queue, found⟩ :=
    marks_available builtins page pipeline consumer entity kind marked
  have shown := (mem_attentionCells_iff builtins page pipeline _).mpr
    ⟨consumer, bound, entity, typed, queue, found, rfl⟩
  have raised : ∃ item ∈ cellItems pipeline.id pipeline.label
      ⟨consumer.name, consumer.label, entity, entityLabel builtins entity, queue.name,
        (page.cellModel builtins pipeline consumer entity).health,
        (page.cellModel builtins pipeline consumer entity).dlq⟩,
      item.severity = .crit ∧ item.kind = .queue kind := by
    rw [critical_cellItem_iff]
    rw [Overview.marks, CellModel.mem_marks_iff] at marked
    rcases marked with ⟨state, same⟩ | ⟨state, same⟩
    · exact .inl ⟨(health_crit_iff builtins page pipeline consumer entity).mp state, same⟩
    · have growing := (dlq_crit_iff builtins page pipeline consumer entity).mp state
      exact .inr ⟨by simp [growing, dlqKinds], state, same⟩
  obtain ⟨item, member, critical, same⟩ := raised
  have leads := cellItems_target _ _ _ item member
  refine ⟨item, ?_, critical, same, leads⟩
  apply (mem_derive_cell_iff builtins _ item _ _ _ leads).mpr
  refine ⟨page.pipelineReport builtins pipeline report, ?_, up, available, _, shown, member⟩
  apply List.mem_filterMap.mpr
  refine ⟨pipeline, ?_, ?_⟩
  · rw [drawn]
    exact known
  · rw [last, Option.bind_some, reported, Option.map_some]

/-- The reasons of a headline are exactly the marks of the cells. -/
theorem mem_progressReasons_iff (reason : Reason) :
    reason ∈ (page.progressCells builtins pipeline).flatMap ProgressCell.reasons ↔
      ∃ consumer ∈ pipeline.consumers, ∃ entity ∈ pipeline.entityTypes,
        ∃ kind ∈ page.marks builtins pipeline consumer entity, ∃ text,
          blocker kind = some text ∧
            reason = ⟨consumer.name, consumer.label, entity, entityLabel builtins entity, text⟩ := by
  simp only [Overview.progressCells, List.mem_flatMap, List.mem_filterMap, Option.map_eq_some_iff]
  constructor
  · rintro ⟨cell, ⟨consumer, bound, entity, typed, queue, _, rfl⟩, member⟩
    have both := (mem_reasons_iff _ reason).mp member
    obtain ⟨kind, marked, found⟩ :=
      (blocker_iff_mark builtins page pipeline consumer entity reason.blocker).mp both.1
    refine ⟨consumer, bound, entity, typed, kind, marked, _, found, ?_⟩
    cases reason
    simp_all
  · rintro ⟨consumer, bound, entity, typed, kind, marked, text, found, rfl⟩
    obtain ⟨_, queue, present⟩ :=
      marks_available builtins page pipeline consumer entity kind marked
    have blocked := (blocker_iff_mark builtins page pipeline consumer entity text).mpr
      ⟨kind, marked, found⟩
    refine ⟨_, ⟨consumer, bound, entity, typed, queue, present, rfl⟩, ?_⟩
    exact (mem_reasons_iff _ _).mpr ⟨blocked, rfl, rfl, rfl, rfl⟩

end Views

end OperationsConsole.Browser
