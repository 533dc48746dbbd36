/-
This file decides when the collection loop detects a stall at its cadence.
Every step between readings that is longer than the detector's gap restarts the zero-ack run.
-/

import OperationsConsole.Collector.CollectionLoop
import OperationsConsole.Events.MarkerBound
import OperationsConsole.Events.StallRecord

namespace OperationsConsole

open Library

/-- A reading shows only stuck entries when each entry of the queue has a backlog, a consumer, and
no acks. -/
def ShowsOnlyStuck (key : QueueKey) (reading : SystemMetrics) : Prop :=
  ∃ pipeline, reading.pipelines.get? key.1 = some pipeline ∧ pipeline.queuesAvailable = true ∧
    pipeline.entries key.2 ≠ [] ∧
    ∀ queue ∈ pipeline.entries key.2, queue.zeroAck = true ∧ 0 < queue.consumers

/-- A stuck span ends a history, shows the queue stuck in every reading, and lasts for a bound. -/
structure StuckSpan (key : QueueKey) (bound : Seconds) (newest : SystemMetrics)
    (rest older : List SystemMetrics) (history : List SystemMetrics) : Prop where
  split : history = newest :: rest ++ older
  held : ∀ reading ∈ newest :: rest, ShowsOnlyStuck key reading
  long : ∃ oldest, (newest :: rest).getLast? = some oldest ∧
    bound ≤ newest.timestamp - oldest.timestamp

/-- The newest reading carries the stall on every entry of the queue, and its event is recorded. -/
def DetectsStall (config : DetectorConfig) (key : QueueKey) : List SystemMetrics → Prop
  | [] => False
  | metrics :: earlier =>
      (∀ visit ∈ queueVisits config (detectorAfter config earlier) metrics, visit.key = key →
        visit.conditionKind config metrics.timestamp = some .stalled) ∧
        StallRecorded config key (metrics :: earlier)

/-- Entries that all hold repeat one sample. -/
theorem entrySamples_held (now : Seconds) (entries : List QueueInfo)
    (held : ∀ queue ∈ entries, queue.zeroAck = true) :
    entrySamples now entries =
      (List.replicate entries.length now).map fun time => .read time true := by
  have same : entries.map (zeroAckSample now) =
      List.replicate entries.length (.read now true) := by
    rw [List.map_eq_replicate_iff]
    intro queue member
    rw [zeroAckSample, held queue member]
  rw [entrySamples, same, List.reverse_replicate, List.map_replicate]

/-- A stuck reading samples its instant once or more. -/
theorem readingSamples_stuck (key : QueueKey) (reading : SystemMetrics)
    (stuck : ShowsOnlyStuck key reading) :
    ∃ count, readingSamples key reading =
      (List.replicate (count + 1) reading.timestamp).map fun time => .read time true := by
  obtain ⟨pipeline, listed, available, present, held⟩ := stuck
  obtain ⟨count, size⟩ := Nat.exists_eq_succ_of_ne_zero
    (fun empty => present (List.length_eq_zero_iff.mp empty))
  refine ⟨count, ?_⟩
  rw [readingSamples, listed]
  dsimp only
  rw [if_pos available, entrySamples_held _ _ fun queue member => (held queue member).1, size]

/-- A stuck span samples its instants, each of them once or more. -/
theorem historySamples_stuck (key : QueueKey) (span : List SystemMetrics)
    (stuck : ∀ reading ∈ span, ShowsOnlyStuck key reading) :
    ∃ items : List (Seconds × Nat), items.map Prod.fst = span.map SystemMetrics.timestamp ∧
      historySamples key span = (repeated items).map fun time => .read time true := by
  induction span with
  | nil => exact ⟨[], rfl, rfl⟩
  | cons reading rest ih =>
      obtain ⟨items, times, samples⟩ :=
        ih fun other member => stuck other (List.mem_cons_of_mem _ member)
      obtain ⟨count, newest⟩ := readingSamples_stuck key reading (stuck reading List.mem_cons_self)
      refine ⟨(reading.timestamp, count) :: items, ?_, ?_⟩
      · rw [List.map_cons, List.map_cons, times]
      · rw [historySamples_cons, newest, samples, repeated_cons, List.map_append]

/-- At the end of a stuck span the zero-ack run is long exactly when every late step is old. -/
theorem stuck_longRun_iff (key : QueueKey) (newest : SystemMetrics)
    (rest older : List SystemMetrics) (before : List QueueInfo) (queue : QueueInfo)
    (entry : queue.zeroAck = true)
    (seen : ∀ other ∈ before.filter (fun other => other.name = key.2), other.zeroAck = true)
    (span : StuckSpan key stallSeconds newest rest older (newest :: rest ++ older))
    (ordered : ((newest :: rest ++ older).map SystemMetrics.timestamp).Pairwise
      fun later former => former ≤ later) :
    LongZeroAckRun key newest.timestamp before queue (rest ++ older) ↔
      LateStepsEnd gapSeconds stallSeconds newest.timestamp
        ((newest :: rest).map SystemMetrics.timestamp) := by
  obtain ⟨oldest, last, long⟩ := span.long
  obtain ⟨items, times, samples⟩ := historySamples_stuck key rest fun reading member =>
    span.held reading (List.mem_cons_of_mem _ member)
  let count := (before.filter fun other => other.name = key.2).length
  have instants : ((newest.timestamp, count) :: items).map Prod.fst =
      (newest :: rest).map SystemMetrics.timestamp := by
    rw [List.map_cons, List.map_cons, times]
  have sampled : zeroAckSample newest.timestamp queue ::
      (entrySamples newest.timestamp (before.filter fun other => other.name = key.2) ++
        historySamples key (rest ++ older)) =
      (repeated ((newest.timestamp, count) :: items)).map (fun time => .read time true) ++
        historySamples key older := by
    rw [zeroAckSample, entry, entrySamples_held _ _ seen, repeated_cons, List.map_append,
      ← samples, List.replicate_succ, List.map_cons, List.cons_append, List.cons_append,
      List.append_assoc]
    rw [historySamples, List.flatMap_append]
    rfl
  have oldestTime : (repeated ((newest.timestamp, count) :: items)).getLast? =
      some oldest.timestamp := by
    rw [getLast?_repeated, instants, List.getLast?_map, last, Option.map_some]
  have spanOrdered : ((newest :: rest).map SystemMetrics.timestamp).Pairwise
      fun later former => former ≤ later := by
    rw [List.map_append, List.pairwise_append] at ordered
    exact ordered.1
  have beforeSpan : ∀ time holds, Sample.read time holds ∈ historySamples key older →
      time ≤ oldest.timestamp := by
    intro time holds member
    obtain ⟨reading, inside, stamp⟩ := historySamples_time key older time holds member
    rw [List.map_append, List.pairwise_append] at ordered
    rw [← stamp]
    apply ordered.2.2 oldest.timestamp
    · exact List.mem_map.mpr ⟨oldest, List.mem_of_getLast? last, rfl⟩
    · exact List.mem_map.mpr ⟨reading, inside, rfl⟩
  obtain ⟨start, found, reach⟩ := currentRun_reaches_iff gapSeconds stallSeconds newest.timestamp
    (repeated ((newest.timestamp, count) :: items)) (historySamples key older) oldest.timestamp
    oldestTime long (pairwise_repeated _ (by rw [instants]; exact spanOrdered)) beforeSpan
  rw [lateStepsEnd_repeated _ _ _ _ (by decide +kernel), instants] at reach
  rw [← reach, LongZeroAckRun, zeroAckRun, sampled, found]
  constructor
  · rintro ⟨other, same, far⟩
    rw [Option.some.injEq] at same
    rw [same]
    exact far
  · intro far
    exact ⟨start, rfl, far⟩

/-- At the end of a stuck span every entry of the queue is stalled exactly when every late step of
the span is old. -/
theorem stuck_visit_iff (config : DetectorConfig) (key : QueueKey) (newest : SystemMetrics)
    (rest older : List SystemMetrics)
    (span : StuckSpan key stallSeconds newest rest older (newest :: rest ++ older))
    (ordered : ((newest :: rest ++ older).map SystemMetrics.timestamp).Pairwise
      fun later former => former ≤ later) (visit : QueueVisit)
    (member : visit ∈ queueVisits config (detectorAfter config (rest ++ older)) newest)
    (same : visit.key = key) :
    visit.conditionKind config newest.timestamp = some .stalled ↔
      LateStepsEnd gapSeconds stallSeconds newest.timestamp
        ((newest :: rest).map SystemMetrics.timestamp) := by
  obtain ⟨pipeline, listed, available, present, held⟩ := span.held newest List.mem_cons_self
  obtain ⟨before, unseen, split, memory⟩ := visit_memory config _ newest visit member
  have scraped := (mem_queueVisits_reading config _ newest visit member).2.1
  have id : visit.pipelineId = key.1 := congrArg Prod.fst same
  have name : visit.queue.name = key.2 := congrArg Prod.snd same
  rw [id, listed, Option.some.injEq] at scraped
  have entries : pipeline.entries key.2 =
      before.filter (fun other => other.name = key.2) ++
        visit.queue :: unseen.filter (fun other => other.name = key.2) := by
    rw [PipelineMetrics.entries, scraped, split, List.filter_append, List.filter_cons,
      if_pos (decide_eq_true name)]
  have stuck := held visit.queue (by rw [entries]; simp)
  rw [visit_stalled_iff config _ newest visit before member memory, same]
  rw [stuck_longRun_iff key newest rest older before visit.queue stuck.1 ?_ span ordered]
  · exact and_iff_right stuck.2
  · intro other inside
    exact (held other (by rw [entries]; exact List.mem_append_left _ inside)).1

/-- A reading whose last entry of a queue is stalled leaves the stall remembered. -/
theorem remembers_of_stalled (config : DetectorConfig) (key : QueueKey)
    (work : key.2 ∈ config.workQueues) (metrics : SystemMetrics) (earlier : List SystemMetrics)
    (shown : ShowsOnlyStuck key metrics)
    (stalled : ∀ visit ∈ queueVisits config (detectorAfter config earlier) metrics,
      visit.key = key → visit.conditionKind config metrics.timestamp = some .stalled) :
    RemembersStall config key (metrics :: earlier) := by
  obtain ⟨pipeline, listed, available, present, _⟩ := shown
  obtain ⟨seen, queue, entries⟩ : ∃ seen queue, pipeline.entries key.2 = seen ++ [queue] :=
    ⟨_, _, (List.dropLast_append_getLast present).symm⟩
  obtain ⟨before, rest, split, front⟩ := filter_split _ _ _ _ _ entries
  have named : queue.name = key.2 := by
    have inside : queue ∈ pipeline.entries key.2 := by
      rw [entries]
      simp
    rw [PipelineMetrics.entries, List.mem_filter] at inside
    simpa using inside.2
  obtain ⟨visit, member, id, scraped, entry, memory⟩ := exists_visit config
    (detectorAfter config earlier) metrics key.1 pipeline before rest queue listed available split
    (named ▸ work)
  have same : visit.key = key := by
    rw [QueueVisit.key, id, entry]
    exact Prod.ext rfl named
  have verdict := stalled visit member same
  rw [QueueVisit.conditionKind, visit_outcome config _ metrics visit member] at verdict
  dsimp only at verdict
  rw [memory, scraped, entry, named, front] at verdict
  change (Detector.memory (observe config (detectorAfter config earlier) metrics).state
    key).condition = _
  rw [observe_memory config _ metrics key work, QueueMemory.read, listed]
  dsimp only [QueueMemory.scrape]
  rw [if_pos available, entries, QueueMemory.seeAll, List.foldl_append]
  change some (rememberedKind (QueueMemory.conditionAt _ _ _
    (QueueMemory.seeAll config pipeline metrics.timestamp _ seen) queue)) = _
  obtain ⟨condition, found, kind⟩ := Option.map_eq_some_iff.mp verdict
  rw [found, rememberedKind, kind]
  rfl

/-- A run of the loop detects the stall of a stuck span exactly when every step of the span that is
longer than the gap ends at least the stall bound before the span's end. -/
theorem detectsStall_iff (config : DetectorConfig) (start : Seconds) (cycles : List Cycle)
    (valid : ∀ cycle ∈ cycles, cycle.Valid) (key : QueueKey) (work : key.2 ∈ config.workQueues)
    (newest : SystemMetrics) (rest older : List SystemMetrics)
    (span : StuckSpan key stallSeconds newest rest older
      (collectMetricsLoop config start cycles).observed) :
    DetectsStall config key (collectMetricsLoop config start cycles).observed ↔
      LateStepsEnd gapSeconds stallSeconds newest.timestamp
        ((newest :: rest).map SystemMetrics.timestamp) := by
  have ordered := (collectMetricsLoop_ordered config start cycles valid).1
  rw [span.split] at ordered ⊢
  have stuck : StuckSpan key stallSeconds newest rest older (newest :: rest ++ older) :=
    ⟨rfl, span.held, span.long⟩
  have shown := span.held newest List.mem_cons_self
  rw [List.cons_append, DetectsStall]
  constructor
  · intro ⟨stalled, _⟩
    obtain ⟨pipeline, listed, available, present, _⟩ := shown
    obtain ⟨queue, inside⟩ := List.exists_mem_of_ne_nil _ present
    rw [PipelineMetrics.entries, List.mem_filter] at inside
    have named : queue.name = key.2 := by simpa using inside.2
    obtain ⟨before, unseen, split⟩ := List.append_of_mem inside.1
    obtain ⟨visit, member, id, _, entry, _⟩ := exists_visit config
      (detectorAfter config (rest ++ older)) newest key.1 pipeline before unseen queue listed
      available split (named ▸ work)
    have same : visit.key = key := by
      rw [QueueVisit.key, id, entry]
      exact Prod.ext rfl named
    exact (stuck_visit_iff config key newest rest older stuck ordered visit member same).mp
      (stalled visit member same)
  · intro ends
    have stalled : ∀ visit ∈ queueVisits config (detectorAfter config (rest ++ older)) newest,
        visit.key = key → visit.conditionKind config newest.timestamp = some .stalled :=
      fun visit member same =>
        (stuck_visit_iff config key newest rest older stuck ordered visit member same).mpr ends
    exact ⟨stalled, remembered_stall_recorded config key work _
      (remembers_of_stalled config key work newest (rest ++ older) shown stalled)⟩

/-- A pass with a reading publishes what the detector shows after the readings of the loop. -/
theorem pass_latestMetrics (config : DetectorConfig) (start : Seconds) (cycles : List Cycle)
    (cycle : Cycle) (metrics : SystemMetrics)
    (read : cycle.reading (collectMetricsLoop config start cycles).clock = some metrics) :
    (collectMetricsLoop config start (cycle :: cycles)).latestMetrics =
      some (observe config (detectorAfter config (collectMetricsLoop config start cycles).observed)
        metrics).metrics := by
  rw [← collectMetricsLoop_events]
  change (CollectionLoop.pass config (collectMetricsLoop config start cycles) cycle).latestMetrics = _
  unfold CollectionLoop.pass
  rw [read]

/-- Every pass with a reading publishes the condition of each of its visits at the place of the
visited entry. -/
theorem pass_publishes (config : DetectorConfig) (start : Seconds) (cycles : List Cycle)
    (cycle : Cycle) (metrics : SystemMetrics)
    (read : cycle.reading (collectMetricsLoop config start cycles).clock = some metrics)
    (visit : QueueVisit) (member : visit ∈ queueVisits config
      (detectorAfter config (collectMetricsLoop config start cycles).observed) metrics) :
    ∃ published before rest,
      (collectMetricsLoop config start (cycle :: cycles)).latestMetrics = some published ∧
      visit.pipeline.queues = before ++ visit.queue :: rest ∧
      ((published.pipelines.get? visit.pipelineId).bind fun pipeline =>
        pipeline.queues[before.length]?.bind QueueInfo.condition).map QueueCondition.kind =
          visit.conditionKind config metrics.timestamp := by
  obtain ⟨before, rest, split, shown⟩ := (visit_observed config _ metrics visit member).1
  exact ⟨_, before, rest, pass_latestMetrics config start cycles cycle metrics read, split, shown⟩

/-- This reading shows the work queue `work` with a backlog and a consumer. -/
def consumedReading (timestamp : Seconds) (ackRate : Option ℚ) : SystemMetrics where
  pipelines := Dict.empty.set "discogs"
    { services := [], queues := [⟨"work", 8, 8, 0, 1, some 0, ackRate, none⟩] }
  timestamp := timestamp

/-- This pass sleeps for the whole idle interval without a viewer. -/
def idlePass (collection : Seconds) (ackRate : Option ℚ) : Cycle :=
  .completed collection (consumedReading 0 ackRate) 0 (List.replicate 15 ⟨2, false⟩)

theorem idlePass_valid (collection : Seconds) (ackRate : Option ℚ) (nonneg : 0 ≤ collection) :
    (idlePass collection ackRate).Valid := by
  refine ⟨nonneg, le_rfl, ?_, by decide +kernel⟩
  intro tick member
  rw [List.eq_of_mem_replicate member]
  exact le_rfl

theorem consumedReading_stuck (timestamp : Seconds) :
    ShowsOnlyStuck ("discogs", "work") (consumedReading timestamp (some 0)) := by
  refine ⟨_, rfl, rfl, by decide, ?_⟩
  intro queue member
  have only : queue ∈ [(⟨"work", 8, 8, 0, 1, some 0, some 0, none⟩ : QueueInfo)] := member
  rw [List.mem_singleton.mp only]
  decide +kernel

/-- The idle loop whose collections take no time detects the stall. -/
theorem detectsStall_promptly :
    DetectsStall { workQueues := ["work"] } ("discogs", "work")
      (collectMetricsLoop { workQueues := ["work"] } 0
        [idlePass 0 (some 0), idlePass 0 (some 0), idlePass 0 (some 0), idlePass 0 none]).observed := by
  have observed : (collectMetricsLoop { workQueues := ["work"] } 0
      [idlePass 0 (some 0), idlePass 0 (some 0), idlePass 0 (some 0), idlePass 0 none]).observed =
      [consumedReading 90 (some 0), consumedReading 60 (some 0), consumedReading 30 (some 0),
        consumedReading 0 none] := by
    decide +kernel
  refine (detectsStall_iff { workQueues := ["work"] } 0
    [idlePass 0 (some 0), idlePass 0 (some 0), idlePass 0 (some 0), idlePass 0 none] ?_
    ("discogs", "work") (by decide) (consumedReading 90 (some 0))
    [consumedReading 60 (some 0), consumedReading 30 (some 0)] [consumedReading 0 none]
    ⟨observed, ?_, consumedReading 30 (some 0), rfl, by decide +kernel⟩).mpr ?_
  · intro cycle member
    simp only [List.mem_cons, List.not_mem_nil, or_false] at member
    rcases member with same | same | same | same <;> rw [same] <;>
      exact idlePass_valid 0 _ le_rfl
  · intro reading member
    simp only [List.mem_cons, List.not_mem_nil, or_false] at member
    rcases member with same | same | same <;> rw [same] <;> exact consumedReading_stuck _
  · simp only [List.map_cons, List.map_nil, lateStepsEnd_cons]
    refine ⟨fun late => absurd late (by decide +kernel),
      fun late => absurd late (by decide +kernel), ?_⟩
    intro newer later former rest split _
    have size := congrArg List.length split
    simp at size
    omega

/-- The idle loop whose collections take one second never detects the stall. -/
theorem idle_loop_misses_stall :
    let cycles := idlePass 1 (some 0) :: idlePass 1 (some 0) :: idlePass 1 (some 0) ::
      idlePass 1 (some 0) :: [idlePass 1 none]
    let history := (collectMetricsLoop { workQueues := ["work"] } 0 cycles).observed
    (∀ cycle ∈ cycles, cycle.Valid) ∧
      StuckSpan ("discogs", "work") (stallSeconds + 31) (consumedReading 125 (some 0))
        [consumedReading 94 (some 0), consumedReading 63 (some 0), consumedReading 32 (some 0)]
        [consumedReading 1 none] history ∧
      ¬ DetectsStall { workQueues := ["work"] } ("discogs", "work") history := by
  intro cycles history
  have observed : history = [consumedReading 125 (some 0), consumedReading 94 (some 0),
      consumedReading 63 (some 0), consumedReading 32 (some 0), consumedReading 1 none] := by
    decide +kernel
  refine ⟨?_, ⟨observed, ?_, consumedReading 32 (some 0), rfl, by decide +kernel⟩, ?_⟩
  · intro cycle member
    simp only [cycles, List.mem_cons, List.not_mem_nil, or_false] at member
    rcases member with same | same | same | same | same <;> rw [same] <;>
      exact idlePass_valid 1 _ (by decide +kernel)
  · intro reading member
    simp only [List.mem_cons, List.not_mem_nil, or_false] at member
    rcases member with same | same | same | same <;> rw [same] <;> exact consumedReading_stuck _
  · rw [observed]
    intro ⟨stalled, _⟩
    have verdicts : (queueVisits { workQueues := ["work"] }
        (detectorAfter { workQueues := ["work"] } [consumedReading 94 (some 0),
          consumedReading 63 (some 0), consumedReading 32 (some 0), consumedReading 1 none])
        (consumedReading 125 (some 0))).map
          (fun visit => (visit.key, visit.conditionKind { workQueues := ["work"] } 125)) =
        [(("discogs", "work"), none)] := by
      decide +kernel
    obtain ⟨visit, member, same⟩ := List.mem_map.mp (by
      rw [verdicts]
      exact List.mem_singleton_self _)
    rw [Prod.mk.injEq] at same
    have verdict := stalled visit member same.1
    rw [show (consumedReading 125 (some 0)).timestamp = 125 from rfl, same.2] at verdict
    simp at verdict

end OperationsConsole
