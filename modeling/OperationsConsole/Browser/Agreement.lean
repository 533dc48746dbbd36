/-
This file proves that the matrix, the attention bar, and the run headline never disagree.
It holds after any steps of the Overview, and so after every sequence of readings.
-/

import OperationsConsole.Browser.CellMarks

namespace OperationsConsole.Browser

open Library

section Availability

/-- What the page knows of the queue metrics is what the last reading says. -/
def AvailabilityKept (page : Overview) : Prop :=
  ∀ reading, page.lastReading = some reading → ∀ name report,
    reading.value.pipelines.get? name = some report →
      page.queuesUnavailable.get? name = some (!report.queuesAvailable)

/-- A reading assigns the availability of every pipeline that it reports. -/
theorem queuesUnavailable_update (builtins : Builtins) (layout : Layout) (shown : Shown)
    (reading : Sent LiveReading) (name : String) (report : PipelineReading)
    (reported : reading.value.pipelines.get? name = some report) :
    (shown.update builtins layout reading).queuesUnavailable.get? name =
      some (!report.queuesAvailable) := by
  have folded : List.foldl (fun known item => known.set item.1 (!item.2.queuesAvailable))
        shown.queuesUnavailable reading.value.pipelines.items =
      Shown.queuesUnavailable (List.foldl
        (updatePipeline layout reading.period reading.value.timestamp) shown
        reading.value.pipelines.items) :=
    List.foldl_hom Shown.queuesUnavailable fun _ _ => rfl
  change Dict.get? (Shown.queuesUnavailable (List.foldl _ _ _)) name = _
  rw [← folded]
  exact Dict.get?_foldl_set _ (fun item => !item.2.queuesAvailable) _
    reading.value.pipelines.nodup (name, report)
    ((Dict.get?_eq_some_iff _ _ _).mp reported)

theorem availabilityKept_updateDashboard (builtins : Builtins) (page : Overview)
    (reading : Sent LiveReading) (before : AvailabilityKept page) :
    AvailabilityKept (page.updateDashboard builtins reading) := by
  unfold Overview.updateDashboard
  split
  · exact before
  · rename_i layout _
    intro last same name report reported
    rw [← Option.some.inj same] at reported
    exact queuesUnavailable_update builtins layout _ reading name report reported

theorem availabilityKept_step (builtins : Builtins) (page : Overview) (input : OverviewInput)
    (before : AvailabilityKept page) : AvailabilityKept (page.step builtins input) := by
  cases input with
  | reading reading => exact availabilityKept_updateDashboard builtins page reading before
  | topology layout =>
      change AvailabilityKept (page.renderTopology layout)
      unfold Overview.renderTopology
      split
      · exact before
      · exact before
  | pending =>
      change AvailabilityKept (page.applyPending builtins)
      unfold Overview.applyPending
      split
      · exact availabilityKept_updateDashboard builtins _ _ before
      · exact before
  | alerts alerts => exact before
  | runs runs => exact before
  | progress pipeline numbers => exact before

theorem availabilityKept_after (builtins : Builtins) (history : List OverviewInput) :
    AvailabilityKept (overviewAfter builtins history) := by
  induction history with
  | nil =>
      intro reading absent
      exact absurd absent (by simp [overviewAfter])
  | cons input earlier ih => exact availabilityKept_step builtins _ input ih

end Availability

section Agreement

variable (builtins : Builtins) (page : Overview) (pipeline : LayoutPipeline)

/-- The headline cannot finish, and it lists a reason with a property. -/
def CannotFinishFor (names : Reason → Prop) : Prop :=
  ∃ drawn, page.runHeadline builtins pipeline = some drawn ∧ drawn.kind = "cannot-finish" ∧
    ∃ reason ∈ drawn.reasons, names reason

/-- The printed labels tell the cells of a pipeline apart. -/
def LabelsApart : Prop :=
  (∀ first ∈ pipeline.consumers, ∀ second ∈ pipeline.consumers,
    first.label = second.label → first = second) ∧
  ∀ first ∈ pipeline.entityTypes, ∀ second ∈ pipeline.entityTypes,
    entityLabel builtins first = entityLabel builtins second → first = second

/-- The three views agree on one cell. A headline names a cell in a reason that has its consumer
and its entity type, and where the labels tell the cells apart, in a reason that prints them. -/
structure CellAgreement (consumer : LayoutConsumer) (entity : String) : Prop where
  attention : (page.cellModel builtins pipeline consumer entity).state = .crit ↔
    ∃ item ∈ page.attentionItems builtins, item.severity = .crit ∧
      (∃ kind, item.kind = .queue kind) ∧ item.LeadsTo pipeline.id consumer.name entity
  headline : page.running pipeline = true →
    ((page.cellModel builtins pipeline consumer entity).state = .crit ↔
      CannotFinishFor builtins page pipeline fun reason =>
        reason.consumer = consumer.name ∧ reason.entity = entity)
  printed : page.running pipeline = true → LabelsApart builtins pipeline →
    ((page.cellModel builtins pipeline consumer entity).state = .crit ↔
      CannotFinishFor builtins page pipeline fun reason =>
        reason.consumerLabel = consumer.label ∧
          reason.entityLabel = entityLabel builtins entity)

/-- A queue that awaits its marker has no critical mark in any view: what is critical about its
cell is the growth of the dead-letter queue. -/
structure QuietWait (consumer : LayoutConsumer) (entity : String) : Prop where
  matrix : (page.cellModel builtins pipeline consumer entity).health.state ≠ .crit
  attention : ∀ item ∈ page.attentionItems builtins, item.severity = .crit →
    (∃ kind, item.kind = .queue kind) → item.LeadsTo pipeline.id consumer.name entity →
      item.kind = .queue .dlqGrowing
  headline : ∀ drawn, page.runHeadline builtins pipeline = some drawn → ∀ reason ∈ drawn.reasons,
    reason.consumer = consumer.name → reason.entity = entity → reason.blocker = "DLQ growing"

/-- Without queue metrics no view reports a condition of a queue of the pipeline. -/
structure QuietOutage : Prop where
  matrix : ∀ consumer entity, (page.cellModel builtins pipeline consumer entity).state = .unknown ∧
    (page.cellModel builtins pipeline consumer entity).health.kind = .unavailable ∧
    (page.cellModel builtins pipeline consumer entity).dlq.kind = .unavailable
  attention : ∀ item ∈ page.attentionItems builtins, ∀ consumer entity,
    ¬item.LeadsTo pipeline.id consumer entity
  headline : ∀ drawn, page.runHeadline builtins pipeline = some drawn →
    drawn.kind ≠ "cannot-finish"

/-- The newest kept sample of the work queue says that the queue awaits its marker. -/
def AwaitsMarker (consumer : LayoutConsumer) (entity : String) : Prop :=
  ∃ last label, latest (page.cellModel builtins pipeline consumer entity).samples = some last ∧
    last.reading.condition = some ⟨.awaitingMarker, label⟩

end Agreement

/-- The views agree on every cell of every reported pipeline that is not down. -/
def ViewsAgree (builtins : Builtins) (page : Overview) : Prop :=
  ∀ layout, page.layout = some layout → ∀ reading, page.lastReading = some reading →
    ∀ pipeline ∈ layout.pipelines, ∀ report,
      reading.value.pipelines.get? pipeline.id = some report → report.down = false →
        (∀ consumer ∈ pipeline.consumers, ∀ entity ∈ pipeline.entityTypes,
          CellAgreement builtins page pipeline consumer entity ∧
            (AwaitsMarker builtins page pipeline consumer entity →
              QuietWait builtins page pipeline consumer entity)) ∧
        (report.queuesAvailable = false → QuietOutage builtins page pipeline)

section Views

variable (builtins : Builtins) (page : Overview) (pipeline : LayoutPipeline)

/-- The headline lists the reasons of the cells, but only for a running run. -/
theorem runHeadline_reasons (running : page.running pipeline = true) (names : Reason → Prop) :
    CannotFinishFor builtins page pipeline names ↔
      ∃ reason ∈ (page.progressCells builtins pipeline).flatMap ProgressCell.reasons,
        names reason := by
  unfold CannotFinishFor Overview.runHeadline
  rw [running]
  constructor
  · rintro ⟨drawn, shown, kind, reason, member, named⟩
    exact ⟨reason, (headline_reasons _ _ reason).mp ⟨drawn, shown, kind, member⟩, named⟩
  · rintro ⟨reason, member, named⟩
    obtain ⟨drawn, shown, kind, listed⟩ := (headline_reasons _ _ reason).mpr member
    exact ⟨drawn, shown, kind, reason, listed, named⟩

/-- A run that is not in progress has no headline. -/
theorem runHeadline_idle (idle : page.running pipeline = false) :
    page.runHeadline builtins pipeline = none := by
  rw [Overview.runHeadline, idle]
  simp [headline]

/-- Every reason that a headline lists is a mark of a cell. -/
theorem mark_of_reason (drawn : Headline) (shown : page.runHeadline builtins pipeline = some drawn)
    (reason : Reason) (member : reason ∈ drawn.reasons) :
    ∃ consumer ∈ pipeline.consumers, ∃ entity ∈ pipeline.entityTypes,
      ∃ kind ∈ page.marks builtins pipeline consumer entity, ∃ text, blocker kind = some text ∧
        reason = ⟨consumer.name, consumer.label, entity, entityLabel builtins entity, text⟩ := by
  cases running : page.running pipeline with
  | false =>
      rw [runHeadline_idle builtins page pipeline running] at shown
      simp at shown
  | true =>
      have kind : drawn.kind = "cannot-finish" := by
        cases drawn with
        | cannotFinish _ => rfl
        | _ => exact absurd member List.not_mem_nil
      rw [Overview.runHeadline, running] at shown
      have listed := (headline_reasons _ _ reason).mp ⟨drawn, shown, kind, member⟩
      exact (mem_progressReasons_iff builtins page pipeline reason).mp listed

/-- A way to name cells that tells them apart names exactly the critical cells. -/
theorem state_crit_iff_named (running : page.running pipeline = true) (names : Reason → Prop)
    (consumer : LayoutConsumer) (bound : consumer ∈ pipeline.consumers) (entity : String)
    (typed : entity ∈ pipeline.entityTypes)
    (apart : ∀ other ∈ pipeline.consumers, ∀ otherEntity ∈ pipeline.entityTypes, ∀ text,
      names ⟨other.name, other.label, otherEntity, entityLabel builtins otherEntity, text⟩ ↔
        other = consumer ∧ otherEntity = entity) :
    (page.cellModel builtins pipeline consumer entity).state = .crit ↔
      CannotFinishFor builtins page pipeline names := by
  rw [state_crit_iff, runHeadline_reasons builtins page pipeline running]
  constructor
  · rintro ⟨kind, marked⟩
    obtain ⟨text, found⟩ := blocker_of_mark builtins page pipeline consumer entity kind marked
    have listed := (mem_progressReasons_iff builtins page pipeline _).mpr
      ⟨consumer, bound, entity, typed, kind, marked, text, found, rfl⟩
    exact ⟨_, listed, (apart consumer bound entity typed text).mpr ⟨rfl, rfl⟩⟩
  · rintro ⟨reason, listed, named⟩
    obtain ⟨other, otherBound, otherEntity, otherTyped, kind, marked, text, _, rfl⟩ :=
      (mem_progressReasons_iff builtins page pipeline reason).mp listed
    have same := (apart other otherBound otherEntity otherTyped text).mp named
    rw [same.1, same.2] at marked
    exact ⟨kind, marked⟩

/-- A mark of a cell that awaits its marker is the growth of its dead-letter queue. -/
theorem mark_of_waiting (consumer : LayoutConsumer) (entity : String)
    (waits : AwaitsMarker builtins page pipeline consumer entity) (kind : HealthKind)
    (marked : kind ∈ page.marks builtins pipeline consumer entity) :
    (page.cellModel builtins pipeline consumer entity).health.state ≠ .crit ∧
      kind = .dlqGrowing := by
  obtain ⟨last, label, newest, condition⟩ := waits
  have available := (marks_available builtins page pipeline consumer entity kind marked).1
  have both := cellModel_available builtins page pipeline consumer entity available
  dsimp only at both
  rw [assessQueue_awaiting _ last label newest condition] at both
  have calm : (page.cellModel builtins pipeline consumer entity).health.state ≠ .crit := by
    rw [both.1]
    simp
  rw [Overview.marks, CellModel.mem_marks_iff] at marked
  rcases marked with ⟨state, _⟩ | ⟨state, same⟩
  · exact absurd state calm
  · rw [dlq_crit_iff] at state
    exact ⟨calm, same.symm.trans state⟩

/-- The waiting queue itself has no critical state, with or without queue metrics. -/
theorem health_of_waiting (consumer : LayoutConsumer) (entity : String)
    (waits : AwaitsMarker builtins page pipeline consumer entity) :
    (page.cellModel builtins pipeline consumer entity).health.state ≠ .crit := by
  intro critical
  have marked : (page.cellModel builtins pipeline consumer entity).health.kind ∈
      page.marks builtins pipeline consumer entity := by
    rw [Overview.marks, CellModel.mem_marks_iff]
    exact .inl ⟨critical, rfl⟩
  exact (mark_of_waiting builtins page pipeline consumer entity waits _ marked).1 critical

variable (layout : Layout) (drawn : page.layout = some layout)
variable (known : pipeline ∈ layout.pipelines)

include drawn known

theorem cellAgreement (reading : Sent LiveReading) (last : page.lastReading = some reading)
    (report : PipelineReading) (reported : reading.value.pipelines.get? pipeline.id = some report)
    (up : report.down = false) (consumer : LayoutConsumer) (bound : consumer ∈ pipeline.consumers)
    (entity : String) (typed : entity ∈ pipeline.entityTypes) :
    CellAgreement builtins page pipeline consumer entity where
  attention := by
    rw [state_crit_iff]
    constructor
    · rintro ⟨kind, marked⟩
      obtain ⟨item, raised, critical, same, leads⟩ := item_of_mark builtins page pipeline layout
        drawn known reading last report reported up consumer bound entity typed kind marked
      exact ⟨item, raised, critical, ⟨kind, same⟩, leads⟩
    · rintro ⟨item, raised, critical, ⟨kind, same⟩, leads⟩
      exact ⟨kind, mark_of_item builtins page pipeline layout drawn known consumer bound entity kind
        item raised critical same leads⟩
  headline running := by
    apply state_crit_iff_named builtins page pipeline running _ consumer bound entity typed
    intro other otherBound otherEntity _ _
    constructor
    · rintro ⟨name, same⟩
      exact ⟨pipeline.named other otherBound consumer bound name, same⟩
    · rintro ⟨rfl, rfl⟩
      exact ⟨rfl, rfl⟩
  printed running apart := by
    apply state_crit_iff_named builtins page pipeline running _ consumer bound entity typed
    intro other otherBound otherEntity otherTyped _
    constructor
    · rintro ⟨label, same⟩
      exact ⟨apart.1 other otherBound consumer bound label,
        apart.2 otherEntity otherTyped entity typed same⟩
    · rintro ⟨rfl, rfl⟩
      exact ⟨rfl, rfl⟩

theorem quietWait (consumer : LayoutConsumer) (bound : consumer ∈ pipeline.consumers)
    (entity : String) (waits : AwaitsMarker builtins page pipeline consumer entity) :
    QuietWait builtins page pipeline consumer entity where
  matrix := health_of_waiting builtins page pipeline consumer entity waits
  attention := by
    rintro item raised critical ⟨kind, same⟩ leads
    have marked := mark_of_item builtins page pipeline layout drawn known consumer bound entity kind
      item raised critical same leads
    rw [same, (mark_of_waiting builtins page pipeline consumer entity waits kind marked).2]
  headline := by
    intro shown headlined reason member name same
    obtain ⟨other, otherBound, otherEntity, _, kind, marked, text, found, whole⟩ :=
      mark_of_reason builtins page pipeline shown headlined reason member
    rw [whole] at name same ⊢
    have sameConsumer := pipeline.named other otherBound consumer bound name
    change otherEntity = entity at same
    rw [sameConsumer, same] at marked
    rw [(mark_of_waiting builtins page pipeline consumer entity waits kind marked).2] at found
    exact (Option.some.inj found).symm

theorem quietOutage (quiet : page.unavailable pipeline = true) :
    QuietOutage builtins page pipeline where
  matrix consumer entity :=
    have both := cellModel_unavailable builtins page pipeline consumer entity quiet
    ⟨both.1, both.2.1, both.2.2.1⟩
  attention := by
    intro item raised consumer entity leads
    obtain ⟨report, reported, _, available, cell, shown, member⟩ :=
      (mem_derive_cell_iff builtins _ item _ _ _ leads).mp raised
    obtain ⟨other, listed, found⟩ := List.mem_filterMap.mp reported
    obtain ⟨reading, _, rfl⟩ := Option.map_eq_some_iff.mp found
    rw [drawn] at listed
    have target := (cellItems_target _ _ _ item member).symm.trans leads
    rw [Target.cell.injEq] at target
    rw [← layout.identified other listed pipeline known target.1] at quiet
    exact absurd (quiet.symm.trans available) (by decide)
  headline := by
    intro shown headlined cannotFinish
    cases running : page.running pipeline with
    | false =>
        rw [runHeadline_idle builtins page pipeline running] at headlined
        simp at headlined
    | true =>
        rw [Overview.runHeadline, running] at headlined
        refine headline_unblocked _ _ shown ?_ headlined cannotFinish
        apply List.eq_nil_iff_forall_not_mem.mpr
        intro reason member
        obtain ⟨consumer, _, entity, _, kind, marked, _⟩ :=
          (mem_progressReasons_iff builtins page pipeline reason).mp member
        have available := (marks_available builtins page pipeline consumer entity kind marked).1
        exact absurd (quiet.symm.trans available) (by decide)

end Views

/-- After any steps of the Overview the three views agree. -/
theorem viewsAgree (builtins : Builtins) (history : List OverviewInput) :
    ViewsAgree builtins (overviewAfter builtins history) := by
  intro layout drawn reading last pipeline known report reported up
  constructor
  · intro consumer bound entity typed
    constructor
    · exact cellAgreement builtins _ pipeline layout drawn known reading last report reported up
        consumer bound entity typed
    · exact quietWait builtins _ pipeline layout drawn known consumer bound entity
  · intro missing
    apply quietOutage builtins _ pipeline layout drawn known
    have kept := availabilityKept_after builtins history reading last pipeline.id report reported
    rw [missing] at kept
    simp [Overview.unavailable, kept]

end OperationsConsole.Browser
