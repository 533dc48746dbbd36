/-
This file reads the zero-ack run of a work queue from the readings alone.
The detector's watch runs since the first instant of that run.
-/

import OperationsConsole.Events.QueueVisits

namespace OperationsConsole

open Library

/-- One entry samples whether its queue has a backlog and acknowledges nothing. -/
def zeroAckSample (now : Seconds) (queue : QueueInfo) : Sample Seconds :=
  .read now queue.zeroAck

/-- The samples of some entries, the newest first. -/
def entrySamples (now : Seconds) (entries : List QueueInfo) : List (Sample Seconds) :=
  (entries.map (zeroAckSample now)).reverse

/-- A reading samples every entry of the queue, and a failed scrape loses the signal. -/
def readingSamples (key : QueueKey) (metrics : SystemMetrics) : List (Sample Seconds) :=
  match metrics.pipelines.get? key.1 with
  | none => []
  | some pipeline =>
      if pipeline.queuesAvailable then entrySamples metrics.timestamp (pipeline.entries key.2)
      else [.lost]

/-- The samples of a history, the newest first. -/
def historySamples (key : QueueKey) (history : List SystemMetrics) : List (Sample Seconds) :=
  history.flatMap (readingSamples key)

@[simp] theorem historySamples_cons (key : QueueKey) (metrics : SystemMetrics)
    (earlier : List SystemMetrics) :
    historySamples key (metrics :: earlier) =
      readingSamples key metrics ++ historySamples key earlier := rfl

/-- The entries of one reading feed the watch their samples. -/
theorem seeAll_watch (config : DetectorConfig) (pipeline : PipelineMetrics) (now : Seconds)
    (memory : QueueMemory) (entries : List QueueInfo) :
    (memory.seeAll config pipeline now entries).watch =
      after (Stopwatch.feed gapSeconds) memory.watch (entrySamples now entries) := by
  rw [entrySamples, after_reverse, List.foldl_map]
  induction entries generalizing memory with
  | nil => rfl
  | cons queue rest ih => exact ih _

/-- One reading feeds the watch its samples. -/
theorem read_watch (config : DetectorConfig) (key : QueueKey) (memory : QueueMemory)
    (metrics : SystemMetrics) :
    (memory.read config key metrics).watch =
      after (Stopwatch.feed gapSeconds) memory.watch (readingSamples key metrics) := by
  unfold QueueMemory.read readingSamples
  cases metrics.pipelines.get? key.1 with
  | none => rfl
  | some pipeline =>
      simp only [QueueMemory.scrape]
      split
      · exact seeAll_watch config pipeline metrics.timestamp memory _
      · rfl

/-- The detector's watch is fed the samples of its history. -/
theorem detectorAfter_watch (config : DetectorConfig) (history : List SystemMetrics)
    (key : QueueKey) (work : key.2 ∈ config.workQueues) :
    ((detectorAfter config history).memory key).watch =
      after (Stopwatch.feed gapSeconds) {} (historySamples key history) := by
  rw [detectorAfter_memory config history key work]
  induction history with
  | nil => rfl
  | cons metrics earlier ih =>
      rw [after_cons, read_watch, ih, historySamples_cons, after_append]

/-- Every sample of a history is read at the instant of one of its readings. -/
theorem historySamples_time (key : QueueKey) (history : List SystemMetrics) (time : Seconds)
    (holds : Bool) (member : Sample.read time holds ∈ historySamples key history) :
    ∃ reading ∈ history, reading.timestamp = time := by
  rw [historySamples, List.mem_flatMap] at member
  obtain ⟨reading, inside, sample⟩ := member
  refine ⟨reading, inside, ?_⟩
  unfold readingSamples at sample
  split at sample
  · simp at sample
  · split at sample
    · rw [entrySamples, List.mem_reverse, List.mem_map] at sample
      obtain ⟨other, _, equal⟩ := sample
      rw [zeroAckSample, Sample.read.injEq] at equal
      exact equal.1
    · simp at sample

/-- The zero-ack run that ends at an entry, after the entries before it and an earlier history. -/
def zeroAckRun (key : QueueKey) (now : Seconds) (before : List QueueInfo) (queue : QueueInfo)
    (earlier : List SystemMetrics) : List Seconds :=
  currentRun gapSeconds (zeroAckSample now queue ::
    (entrySamples now (before.filter fun other => other.name = key.2) ++
      historySamples key earlier))

/-- The run at an entry reaches back over the stall bound. -/
def LongZeroAckRun (key : QueueKey) (now : Seconds) (before : List QueueInfo) (queue : QueueInfo)
    (earlier : List SystemMetrics) : Prop :=
  ∃ start, (zeroAckRun key now before queue earlier).getLast? = some start ∧
    stallSeconds ≤ now - start

/-- A long run ends at a zero-ack entry. -/
theorem zeroAck_of_long (key : QueueKey) (now : Seconds) (before : List QueueInfo)
    (queue : QueueInfo) (earlier : List SystemMetrics)
    (long : LongZeroAckRun key now before queue earlier) : queue.zeroAck = true := by
  obtain ⟨start, found, _⟩ := long
  cases held : queue.zeroAck with
  | true => rfl
  | false => simp [zeroAckRun, zeroAckSample, held, currentRun] at found

/-- The stall condition needs a backlog, a consumer, and the stall bound. -/
theorem conditionOf_stalled_iff (queue : QueueInfo) (zero : Seconds) (awaiting : Option Seconds)
    (bound : Seconds) :
    (conditionOf queue zero awaiting bound).map QueueCondition.kind = some .stalled ↔
      0 < queue.messages ∧ 0 < queue.consumers ∧ stallSeconds ≤ zero := by
  unfold conditionOf
  split
  · rename_i stuck
    have none : ¬ 0 < queue.consumers := by omega
    cases awaiting with
    | none => simp [none]
    | some seconds =>
        by_cases early : seconds < bound <;> simp [early, none]
  · split
    · rename_i stalled
      simp [stalled]
    · rename_i moving
      simpa using moving

/-- A visit shows a stall exactly on a consumed entry whose zero-ack run is long. -/
theorem visit_stalled_iff (config : DetectorConfig) (earlier : List SystemMetrics)
    (metrics : SystemMetrics) (visit : QueueVisit) (before : List QueueInfo)
    (member : visit ∈ queueVisits config (detectorAfter config earlier) metrics)
    (memory : visit.memory = ((detectorAfter config earlier).memory visit.key).seeAll config
      visit.pipeline metrics.timestamp (before.filter fun queue => queue.name = visit.queue.name)) :
    visit.conditionKind config metrics.timestamp = some .stalled ↔
      0 < visit.queue.consumers ∧
        LongZeroAckRun visit.key metrics.timestamp before visit.queue earlier := by
  have work := (mem_queueVisits_reading config _ metrics visit member).1
  have since : (visit.memory.watchAt metrics.timestamp visit.queue).since =
      (zeroAckRun visit.key metrics.timestamp before visit.queue earlier).getLast? := by
    rw [zeroAckRun, ← Stopwatch.since_eq, after_cons, after_append,
      ← detectorAfter_watch config earlier visit.key work, QueueMemory.watchAt, memory,
      seeAll_watch]
    rfl
  rw [QueueVisit.conditionKind, visit_outcome config _ metrics visit member]
  dsimp only
  rw [QueueMemory.conditionAt, conditionOf_stalled_iff, since]
  constructor
  · rintro ⟨backlog, consumed, long⟩
    refine ⟨consumed, ?_⟩
    cases run : (zeroAckRun visit.key metrics.timestamp before visit.queue earlier).getLast? with
    | none =>
        rw [run, Option.map_none, Option.getD_none] at long
        exact absurd long (by decide +kernel)
    | some start =>
        rw [run, Option.map_some, Option.getD_some] at long
        exact ⟨start, run, long⟩
  · rintro ⟨consumed, long⟩
    have held := zeroAck_of_long _ _ _ _ _ long
    obtain ⟨start, run, reach⟩ := long
    rw [run, Option.map_some, Option.getD_some]
    have backlog : 0 < visit.queue.messages ∧ visit.queue.ackRate = some 0 := by
      simpa [QueueInfo.zeroAck] using held
    exact ⟨backlog.1, consumed, reach⟩

/-- The run starts at a zero-ack entry of some reading of the history. -/
theorem zeroAckRun_start (key : QueueKey) (now start : Seconds) (before : List QueueInfo)
    (queue : QueueInfo) (earlier : List SystemMetrics)
    (first : (zeroAckRun key now before queue earlier).getLast? = some start) :
    start = now ∨ ∃ reading ∈ earlier, reading.timestamp = start := by
  have member := List.mem_of_getLast? first
  obtain ⟨rest, same⟩ := currentRun_prefix gapSeconds (zeroAckSample now queue ::
    (entrySamples now (before.filter fun other => other.name = key.2) ++
      historySamples key earlier))
  have sampled : Sample.read start true ∈ zeroAckSample now queue ::
      (entrySamples now (before.filter fun other => other.name = key.2) ++
        historySamples key earlier) := by
    rw [same]
    exact List.mem_append_left _ (List.mem_map.mpr ⟨start, member, rfl⟩)
  rw [List.mem_cons, List.mem_append] at sampled
  rcases sampled with newest | entry | old
  · left
    rw [zeroAckSample, Sample.read.injEq] at newest
    exact newest.1
  · left
    rw [entrySamples, List.mem_reverse, List.mem_map] at entry
    obtain ⟨other, _, equal⟩ := entry
    rw [zeroAckSample, Sample.read.injEq] at equal
    exact equal.1.symm
  · right
    exact historySamples_time key earlier start true old

end OperationsConsole
