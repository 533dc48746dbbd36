/-
This file decides when a stall verdict has the documented evidence.
The evidence is a backlog, a consumer, and no acknowledgement in every reading of the bound.
-/

import OperationsConsole.Events.ZeroAckRun

namespace OperationsConsole

open Library

/-- A reading shows a stuck consumer when the queue has a backlog, a consumer, and no acks. -/
def ShowsStuckConsumer (key : QueueKey) (reading : SystemMetrics) : Prop :=
  ∃ pipeline, reading.pipelines.get? key.1 = some pipeline ∧ pipeline.queuesAvailable ∧
    ∃ queue ∈ pipeline.entries key.2, queue.zeroAck = true ∧ 0 < queue.consumers

/-- A reading lies at least the stall bound before an instant. -/
def StallBoundBefore (now : Seconds) (reading : SystemMetrics) : Prop :=
  stallSeconds ≤ now - reading.timestamp

/-- The stall rule shows a stall only after the bound of readings with a stuck consumer. -/
def StallRule (config : DetectorConfig) (history : List SystemMetrics) : Prop :=
  ∀ metrics earlier, metrics :: earlier <:+ history →
    ∀ visit ∈ queueVisits config (detectorAfter config earlier) metrics,
      visit.conditionKind config metrics.timestamp = some .stalled →
        HeldSpan (ShowsStuckConsumer visit.key) (StallBoundBefore metrics.timestamp)
          (metrics :: earlier)

/-- No consumed entry of a work queue ends a long zero-ack run soon after a reading in which the
queue had no consumer or was missing. -/
def ConsumersStay (config : DetectorConfig) (history : List SystemMetrics) : Prop :=
  ∀ metrics earlier, metrics :: earlier <:+ history →
    ∀ pipelineId pipeline before queue rest,
      metrics.pipelines.get? pipelineId = some pipeline → pipeline.queuesAvailable →
        pipeline.queues = before ++ queue :: rest → queue.name ∈ config.workQueues →
          0 < queue.consumers →
            LongZeroAckRun (pipelineId, queue.name) metrics.timestamp before queue earlier →
              ¬ RecentLapse (ShowsStuckConsumer (pipelineId, queue.name))
                (StallBoundBefore metrics.timestamp) (metrics :: earlier)

/-- A long run reaches back to a reading at least the bound before its end. -/
theorem longRun_reaches (key : QueueKey) (metrics : SystemMetrics) (before : List QueueInfo)
    (queue : QueueInfo) (earlier : List SystemMetrics)
    (long : LongZeroAckRun key metrics.timestamp before queue earlier) :
    ∃ reading ∈ metrics :: earlier, StallBoundBefore metrics.timestamp reading := by
  obtain ⟨start, first, reach⟩ := long
  rcases zeroAckRun_start key metrics.timestamp start before queue earlier first with
    now | ⟨reading, member, stamp⟩
  · refine ⟨metrics, List.mem_cons_self, ?_⟩
    rw [now] at reach
    exact reach
  · refine ⟨reading, List.mem_cons_of_mem _ member, ?_⟩
    rw [StallBoundBefore, stamp]
    exact reach

/-- A visited entry is one of its pipeline, after the entries that its visit follows. -/
theorem stalled_visit_entry (config : DetectorConfig) (earlier : List SystemMetrics)
    (metrics : SystemMetrics) (visit : QueueVisit)
    (member : visit ∈ queueVisits config (detectorAfter config earlier) metrics) :
    ∃ before rest, visit.pipeline.queues = before ++ visit.queue :: rest ∧
      (visit.conditionKind config metrics.timestamp = some .stalled ↔
        0 < visit.queue.consumers ∧
          LongZeroAckRun visit.key metrics.timestamp before visit.queue earlier) := by
  obtain ⟨before, rest, split, memory⟩ := visit_memory config _ metrics visit member
  exact ⟨before, rest, split, visit_stalled_iff config earlier metrics visit before member memory⟩

/-- A run follows the stall rule exactly when no long zero-ack run ends soon after a lapse. -/
theorem stallRule_iff (config : DetectorConfig) (history : List SystemMetrics) :
    StallRule config history ↔ ConsumersStay config history := by
  constructor
  · intro rule metrics earlier suffix pipelineId pipeline before queue rest listed available
      split work consumed long
    obtain ⟨visit, member, id, scraped, entry, memory⟩ := exists_visit config
      (detectorAfter config earlier) metrics pipelineId pipeline before rest queue listed
      available split work
    have key : visit.key = (pipelineId, queue.name) := by rw [QueueVisit.key, id, entry]
    rw [← key] at long memory ⊢
    rw [← scraped, ← entry] at memory
    rw [← heldSpan_iff _ _ _ (longRun_reaches _ _ _ _ _ long)]
    apply rule metrics earlier suffix visit member
    rw [visit_stalled_iff config earlier metrics visit before member memory, entry]
    exact ⟨consumed, long⟩
  · intro stay metrics earlier suffix visit member stalled
    obtain ⟨before, rest, split, verdict⟩ :=
      stalled_visit_entry config earlier metrics visit member
    obtain ⟨consumed, long⟩ := verdict.mp stalled
    obtain ⟨work, listed, available⟩ := mem_queueVisits_reading config _ metrics visit member
    rw [heldSpan_iff _ _ _ (longRun_reaches _ _ _ _ _ long)]
    exact stay metrics earlier suffix visit.pipelineId visit.pipeline before visit.queue rest
      listed available split work consumed long

/-- This reading shows the work queue `work` with a backlog, no acks, and some consumers. -/
def unackedReading (timestamp : Seconds) (consumers : ℤ) : SystemMetrics where
  pipelines := Dict.empty.set "discogs"
    { services := [], queues := [⟨"work", 8, 8, 0, consumers, some 0, some 0, none⟩] }
  timestamp := timestamp

/-- This run has no consumer for a minute and gets its consumer back in the last reading. -/
def reattachedRun : List SystemMetrics :=
  [unackedReading 62 1, unackedReading 60 0, unackedReading 30 0, unackedReading 0 0]

/-- A reading of the queue without a consumer shows no stuck consumer. -/
theorem unackedReading_unattended (timestamp : Seconds) :
    ¬ ShowsStuckConsumer ("discogs", "work") (unackedReading timestamp 0) := by
  intro ⟨pipeline, listed, _, queue, member, _, consumed⟩
  simp only [unackedReading, Dict.get?_set, if_true, Option.some.injEq] at listed
  subst listed
  simp only [PipelineMetrics.entries, decide_true, List.filter_cons_of_pos, List.filter_nil,
    List.mem_singleton] at member
  subst member
  exact absurd consumed (by decide)

/-- A queue whose consumer has just come back is shown as stalled at once. -/
theorem stallRule_fails : ¬ StallRule { workQueues := ["work"] } reattachedRun := by
  intro rule
  have verdicts : (queueVisits { workQueues := ["work"] }
      (detectorAfter { workQueues := ["work"] } reattachedRun.tail)
      (unackedReading 62 1)).map
        (fun visit => (visit.key, visit.conditionKind { workQueues := ["work"] } 62)) =
      [(("discogs", "work"), some .stalled)] := by
    decide +kernel
  obtain ⟨visit, member, same⟩ := List.mem_map.mp (by
    rw [verdicts]
    exact List.mem_singleton_self _)
  rw [Prod.mk.injEq] at same
  have held := rule (unackedReading 62 1) reattachedRun.tail List.suffix_rfl visit member same.2
  rw [same.1, reattachedRun, List.tail_cons, heldSpan_cons, heldSpan_cons] at held
  rcases held.2 with now | unattended
  · exact absurd now (by unfold StallBoundBefore; decide +kernel)
  · exact unackedReading_unattended 60 unattended.1

end OperationsConsole
