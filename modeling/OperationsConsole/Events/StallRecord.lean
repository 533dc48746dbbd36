/-
This file follows a standing stall back to its event.
A queue that the detector remembers as stalled was announced when its stall began.
-/

import OperationsConsole.Events.MarkerWait
import OperationsConsole.Events.ZeroAckRun

namespace OperationsConsole

open Library

/-- The transitions of a visit are transitions of its reading. -/
theorem visit_found_detected (config : DetectorConfig) (state : Detector)
    (metrics : SystemMetrics) (visit : QueueVisit)
    (member : visit ∈ queueVisits config state metrics) (found : Found)
    (emitted : found ∈ (visit.outcome config metrics.timestamp).found) :
    found ∈ (detect config state metrics).2 := by
  rw [queueVisits, List.mem_flatMap] at member
  obtain ⟨outer, reached, inner⟩ := member
  rw [mem_pipelineVisits] at inner
  obtain ⟨available, _, id, pipeline, before, rest, split, arrived⟩ := inner
  have inside : found ∈ (pipelineStep config metrics.timestamp outer.1 outer.2).2.found := by
    rw [pipelineStep]
    dsimp only
    rw [List.mem_append]
    right
    rw [workQueuesOf, if_pos available]
    dsimp only
    rw [List.mem_flatten]
    refine ⟨(visit.outcome config metrics.timestamp).found, ?_, emitted⟩
    apply List.mem_map.mpr
    refine ⟨visit.outcome config metrics.timestamp, ?_, rfl⟩
    rw [mem_loop_results]
    refine ⟨(visit.before, visit.queue), ?_, ?_⟩
    · exact (mem_visits_iff _ _ _ _).mpr ⟨before, rest, split, arrived⟩
    · rw [QueueVisit.outcome, id, pipeline]
  rw [detect]
  dsimp only
  rw [List.mem_append, List.mem_append, List.mem_flatten]
  refine .inl (.inl ⟨(pipelineStep config metrics.timestamp outer.1 outer.2).2.found, ?_, inside⟩)
  apply List.mem_map.mpr
  refine ⟨(pipelineStep config metrics.timestamp outer.1 outer.2).2, ?_, rfl⟩
  rw [mem_loop_results]
  exact ⟨outer, reached, rfl⟩

/-- A transition of a reading becomes an event of that reading. -/
theorem detected_event (config : DetectorConfig) (state : Detector) (metrics : SystemMetrics)
    (found : Found) (member : found ∈ (detect config state metrics).2) :
    ∃ event ∈ (observe config state metrics).events, event.found = found := by
  rw [← observe_events_found] at member
  exact List.mem_map.mp member

/-- A stall is remembered for a queue after a run. -/
def RemembersStall (config : DetectorConfig) (key : QueueKey) (history : List SystemMetrics) :
    Prop :=
  (detectorAfter config history).conditions.get? key = some (some .stalled)

/-- The standing stall of a queue was recorded as an event, and it has stood since. -/
def StallRecorded (config : DetectorConfig) (key : QueueKey) (history : List SystemMetrics) :
    Prop :=
  ∃ metrics earlier, metrics :: earlier <:+ history ∧
    (∃ event ∈ (observe config (detectorAfter config earlier) metrics).events,
      event.kind = "queue-stalled" ∧ event.level = .error ∧ event.subject = key.2) ∧
    ∀ part, part <:+ history → metrics :: earlier <:+ part → RemembersStall config key part

/-- A queue without a remembered kind has an empty memory. -/
def QueueMemory.Fresh (memory : QueueMemory) : Prop := memory.condition = none → memory = {}

theorem see_fresh (bound now : Seconds) (listed : Bool) (memory : QueueMemory)
    (queue : QueueInfo) : (memory.see bound now listed queue).Fresh := by
  intro unknown
  simp [QueueMemory.see] at unknown

theorem seeAll_fresh (config : DetectorConfig) (pipeline : PipelineMetrics) (now : Seconds)
    (memory : QueueMemory) (fresh : memory.Fresh) (entries : List QueueInfo) :
    (memory.seeAll config pipeline now entries).Fresh := by
  induction entries generalizing memory with
  | nil => exact fresh
  | cons queue rest ih => exact ih _ (see_fresh _ _ _ _ _)

theorem read_fresh (config : DetectorConfig) (key : QueueKey) (memory : QueueMemory)
    (fresh : memory.Fresh) (metrics : SystemMetrics) : (memory.read config key metrics).Fresh := by
  unfold QueueMemory.read
  cases metrics.pipelines.get? key.1 with
  | none => exact fresh
  | some pipeline =>
      dsimp only [QueueMemory.scrape]
      split
      · exact seeAll_fresh config pipeline metrics.timestamp memory fresh _
      · exact fun _ => rfl

theorem detectorAfter_fresh (config : DetectorConfig) (history : List SystemMetrics)
    (key : QueueKey) (work : key.2 ∈ config.workQueues) :
    ((detectorAfter config history).memory key).Fresh := by
  rw [detectorAfter_memory config history key work]
  induction history with
  | nil => exact fun _ => rfl
  | cons metrics earlier ih => exact read_fresh config key _ ih metrics

/-- A queue that is seen for the first time is not stalled. -/
theorem see_of_empty (bound now : Seconds) (listed : Bool) (queue : QueueInfo) :
    (({} : QueueMemory).see bound now listed queue).condition ≠ some (some .stalled) := by
  intro stalled
  have verdict : ((({} : QueueMemory).conditionAt bound now listed queue).map
      QueueCondition.kind) = some .stalled := by
    simp only [QueueMemory.see, Option.some.injEq] at stalled
    cases shown : ({} : QueueMemory).conditionAt bound now listed queue with
    | none => simp [shown, rememberedKind] at stalled
    | some condition =>
        simp only [shown, rememberedKind] at stalled
        split at stalled
        · simp at stalled
        · exact stalled
  rw [QueueMemory.conditionAt, conditionOf_stalled_iff] at verdict
  have short : (((({} : QueueMemory).watchAt now queue).since.map
      fun since => now - since).getD 0) = 0 := by
    cases held : queue.zeroAck <;> simp [QueueMemory.watchAt, Stopwatch.feed, held]
  rw [short] at verdict
  exact absurd verdict.2.2 (by decide +kernel)

/-- A reading that begins to remember a stall has an entry that announces it. -/
theorem seeAll_begins (config : DetectorConfig) (pipeline : PipelineMetrics) (now : Seconds)
    (memory : QueueMemory) (fresh : memory.Fresh) (entries : List QueueInfo)
    (healthy : memory.condition ≠ some (some .stalled))
    (stalled : (memory.seeAll config pipeline now entries).condition = some (some .stalled)) :
    ∃ before queue rest, entries = before ++ queue :: rest ∧
      (memory.seeAll config pipeline now before).condition ≠ none ∧
      (memory.seeAll config pipeline now before).condition ≠ some (some .stalled) ∧
      ((memory.seeAll config pipeline now before).see config.awaitingMarkerSeconds now
        (listedAsAwaiting config pipeline queue) queue).condition = some (some .stalled) := by
  induction entries generalizing memory with
  | nil => exact absurd stalled healthy
  | cons queue rest ih =>
      by_cases begins : (memory.see config.awaitingMarkerSeconds now
          (listedAsAwaiting config pipeline queue) queue).condition = some (some .stalled)
      · refine ⟨[], queue, rest, rfl, ?_, healthy, begins⟩
        intro unknown
        have empty : memory = {} := fresh unknown
        rw [empty] at begins
        exact see_of_empty _ _ _ _ begins
      · obtain ⟨before, entry, later, split, known, other, found⟩ :=
          ih _ (see_fresh _ _ _ memory queue) begins stalled
        exact ⟨queue :: before, entry, later, by rw [split, List.cons_append], known, other, found⟩

/-- A filtered list splits where its source splits. -/
theorem filter_split {α : Type} (keep : α → Bool) (source before rest : List α) (item : α)
    (split : source.filter keep = before ++ item :: rest) :
    ∃ front back, source = front ++ item :: back ∧ front.filter keep = before := by
  obtain ⟨left, right, whole, kept, tail⟩ := List.filter_eq_append_iff.mp split
  obtain ⟨gap, back, equal, dropped, _, _⟩ := List.filter_eq_cons_iff.mp tail
  refine ⟨left ++ gap, back, by rw [whole, equal, List.append_assoc], ?_⟩
  have none : gap.filter keep = [] := List.filter_eq_nil_iff.mpr dropped
  rw [List.filter_append, kept, none, List.append_nil]

/-- A reading that begins to remember a stall produces the stall event. -/
theorem stall_begins (config : DetectorConfig) (key : QueueKey)
    (work : key.2 ∈ config.workQueues) (metrics : SystemMetrics) (earlier : List SystemMetrics)
    (healthy : ¬ RemembersStall config key earlier)
    (stalled : RemembersStall config key (metrics :: earlier)) :
    ∃ event ∈ (observe config (detectorAfter config earlier) metrics).events,
      event.kind = "queue-stalled" ∧ event.level = .error ∧ event.subject = key.2 := by
  have fresh := detectorAfter_fresh config earlier key work
  have next := observe_memory config (detectorAfter config earlier) metrics key work
  change ((detectorAfter config earlier).memory key).condition ≠ _ at healthy
  change (Detector.memory (observe config (detectorAfter config earlier) metrics).state
    key).condition = _ at stalled
  rw [next, QueueMemory.read] at stalled
  cases listed : metrics.pipelines.get? key.1 with
  | none =>
      rw [listed] at stalled
      exact absurd stalled healthy
  | some pipeline =>
      rw [listed] at stalled
      dsimp only [QueueMemory.scrape] at stalled
      split at stalled
      · rename_i available
        obtain ⟨seen, queue, unseen, entries, known, other, begins⟩ :=
          seeAll_begins config pipeline metrics.timestamp _ fresh _ healthy stalled
        obtain ⟨before, rest, split, front⟩ := filter_split _ _ _ _ _ entries
        have named : queue.name = key.2 := by
          have inside : queue ∈ pipeline.entries key.2 := by
            rw [entries]
            simp
          rw [PipelineMetrics.entries, List.mem_filter] at inside
          simpa using inside.2
        obtain ⟨visit, member, id, scraped, entry, memory⟩ := exists_visit config
          (detectorAfter config earlier) metrics key.1 pipeline before rest queue listed available
          split (named ▸ work)
        have same : (key.1, queue.name) = key := Prod.ext rfl named
        rw [same, named, front] at memory
        have outcome := visit_outcome config (detectorAfter config earlier) metrics visit member
        dsimp only at outcome
        rw [memory, scraped, entry] at outcome
        simp only [QueueMemory.see, Option.some.injEq] at begins
        have announced : transition
            (((detectorAfter config earlier).memory key |>.seeAll config pipeline
              metrics.timestamp seen).conditionAt config.awaitingMarkerSeconds metrics.timestamp
                (listedAsAwaiting config pipeline queue) queue) queue ∈
            (visit.outcome config metrics.timestamp).found := by
          rw [outcome]
          dsimp only
          rw [announcement_eq, begins, if_neg]
          · exact List.mem_singleton_self _
          · exact fun silent => silent.elim known other
        obtain ⟨event, produced, equal⟩ := detected_event config _ metrics _
          (visit_found_detected config _ metrics visit member _ announced)
        refine ⟨event, produced, ?_⟩
        rw [show event.kind = event.found.kind from rfl,
          show event.level = event.found.level from rfl,
          show event.subject = event.found.subject from rfl, equal]
        revert begins
        cases (((detectorAfter config earlier).memory key).seeAll config pipeline
          metrics.timestamp seen).conditionAt config.awaitingMarkerSeconds metrics.timestamp
            (listedAsAwaiting config pipeline queue) queue with
        | none => simp [rememberedKind]
        | some condition =>
            intro begins
            simp only [transition, begins]
            exact ⟨rfl, trivial, named⟩
      · simp at stalled

/-- Every remembered stall was recorded when it began. -/
theorem remembered_stall_recorded (config : DetectorConfig) (key : QueueKey)
    (work : key.2 ∈ config.workQueues) (history : List SystemMetrics)
    (stalled : RemembersStall config key history) : StallRecorded config key history := by
  induction history with
  | nil => simp [RemembersStall, detectorAfter] at stalled
  | cons metrics earlier ih =>
      by_cases standing : RemembersStall config key earlier
      · obtain ⟨reading, before, suffix, event, stands⟩ := ih standing
        refine ⟨reading, before, suffix.trans (List.suffix_cons _ _), event, ?_⟩
        intro part inside contains
        rw [List.suffix_cons_iff] at inside
        rcases inside with whole | inside
        · rw [whole]
          exact stalled
        · exact stands part inside contains
      · refine ⟨metrics, earlier, List.suffix_rfl,
          stall_begins config key work metrics earlier standing stalled, ?_⟩
        intro part inside contains
        have whole : part = metrics :: earlier :=
          inside.eq_of_length (le_antisymm inside.length_le contains.length_le)
        rw [whole]
        exact stalled

end OperationsConsole
