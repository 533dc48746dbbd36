/-
This file follows a stall verdict from the detector back to the scrapes.
The rate tracker and the detector are coupled by the samples of consecutive polls.
-/

import OperationsConsole.Collector.QueueMetrics
import OperationsConsole.Events.ZeroAckRun

namespace OperationsConsole

open Library

/-- Each queue name of a scrape occurs in one virtual host. -/
def UniqueNames (samples : Samples) : Prop := (samples.items.map fun item => item.1.2).Nodup

/-- A key that occurs once selects one item. -/
theorem filter_unique {α β : Type} [DecidableEq β] (key : α → β) (items : List α) (item : α)
    (unique : (items.map key).Nodup) (member : item ∈ items) :
    items.filter (fun other => key other = key item) = [item] := by
  induction items with
  | nil => simp at member
  | cons first rest ih =>
      rw [List.map_cons, List.nodup_cons] at unique
      rw [List.mem_cons] at member
      rcases member with equal | member
      · rw [equal, List.filter_cons, if_pos (decide_eq_true rfl)]
        have none : rest.filter (fun other => key other = key first) = [] := by
          rw [List.filter_eq_nil_iff]
          intro other inside same
          rw [decide_eq_true_eq] at same
          exact unique.1 (List.mem_map.mpr ⟨other, inside, same⟩)
        rw [none]
      · have different : key first ≠ key item := fun same =>
          unique.1 (List.mem_map.mpr ⟨item, member, same.symm⟩)
        rw [List.filter_cons_of_neg (by simpa using different)]
        exact ih unique.2 member

/-- A successful scrape with unique names shows a queue once or not at all. -/
theorem scraped_entries (tracker : RateTracker) (poll : Poll) (samples : Samples) (name : String)
    (scraped : poll.scrape = some samples) (unique : UniqueNames samples) :
    let pipeline := collectPipeline poll.services
      (getQueueInfo tracker poll.scrape poll.scrapedAt).2
    pipeline.queuesAvailable = true ∧
      ((pipeline.entries name = [] ∧ ∀ vhost, samples.get? (vhost, name) = none) ∨
        ∃ vhost sample, samples.get? (vhost, name) = some sample ∧
          pipeline.entries name =
            [queueInfoOf (tracker.update samples poll.scrapedAt).2 ((vhost, name), sample)]) := by
  rw [scraped]
  dsimp only [getQueueInfo, collectPipeline, PipelineMetrics.entries, Option.getD_some]
  refine ⟨rfl, ?_⟩
  let sorted := samples.items.mergeSort fun first second => first.1.2 ≤ second.1.2
  let rates := (tracker.update samples poll.scrapedAt).2
  have order : sorted.Perm samples.items := List.mergeSort_perm _ _
  have names : ((sorted.map (queueInfoOf rates)).map QueueInfo.name).Nodup := by
    rw [List.map_map]
    have same := (order.map fun item : SampleKey × QueueSample => item.1.2).nodup_iff
    exact same.mpr unique
  cases found : (sorted.map (queueInfoOf rates)).filter (fun queue => queue.name = name) with
  | nil =>
      refine .inl ⟨rfl, fun vhost => ?_⟩
      rw [Dict.get?_eq_none_iff]
      intro present
      obtain ⟨item, member, same⟩ := List.mem_map.mp present
      rw [List.filter_eq_nil_iff] at found
      apply found (queueInfoOf rates item)
      · exact List.mem_map.mpr ⟨item, order.mem_iff.mpr member, rfl⟩
      · rw [decide_eq_true_eq]
        exact congrArg Prod.snd same
  | cons queue rest =>
      right
      have inside : queue ∈ (sorted.map (queueInfoOf rates)).filter
          (fun queue => queue.name = name) := by
        rw [found]
        exact List.mem_cons_self
      rw [List.mem_filter, decide_eq_true_eq] at inside
      obtain ⟨⟨⟨vhost, other⟩, sample⟩, member, info⟩ := List.mem_map.mp inside.1
      have named : other = name := by
        rw [← inside.2, ← info]
        rfl
      refine ⟨vhost, sample, ?_, ?_⟩
      · rw [Dict.get?_eq_some_iff, ← named]
        exact order.mem_iff.mp member
      · rw [← found, ← named, info, ← filter_unique QueueInfo.name _ queue names inside.1]
        rw [inside.2, named]

section Poll

variable (pipelineId : String) (tracker : RateTracker) (poll : Poll) (name : String)

theorem reading_pipeline :
    (poll.reading pipelineId tracker).pipelines.get? pipelineId =
      some (collectPipeline poll.services (getQueueInfo tracker poll.scrape poll.scrapedAt).2) := by
  rw [Poll.reading, Dict.get?_set, if_pos rfl]

/-- A failed scrape loses the zero-ack signal. -/
theorem failed_samples (failed : poll.scrape = none) :
    readingSamples (pipelineId, name) (poll.reading pipelineId tracker) = [.lost] := by
  rw [readingSamples, reading_pipeline, failed]
  rfl

/-- A stuck poll scraped the queue with a backlog and a fixed total, and shows zero acks. -/
structure StuckPoll (key : SampleKey) (total : ℚ) (reading : SystemMetrics) : Prop where
  scraped : ∃ samples sample, poll.scrape = some samples ∧ samples.get? key = some sample ∧
    0 < sample.messages ∧ sample.ackedTotal = total
  shown : ∃ pipeline queue, reading.pipelines.get? pipelineId = some pipeline ∧
    pipeline.queuesAvailable = true ∧ pipeline.entries key.2 = [queue] ∧ 0 < queue.messages ∧
    queue.ackRate = some 0

/-- A successful poll samples the queue at most once, and a zero-ack sample has a baseline. -/
theorem scraped_samples (samples : Samples) (scraped : poll.scrape = some samples)
    (unique : UniqueNames samples) :
    let reading := poll.reading pipelineId tracker
    (readingSamples (pipelineId, name) reading = [] ∧
      ∀ vhost, samples.get? (vhost, name) = none) ∨
      readingSamples (pipelineId, name) reading = [.read reading.timestamp false] ∨
      readingSamples (pipelineId, name) reading = [.read reading.timestamp true] ∧
        ∃ vhost baseline, tracker.previous.get? (vhost, name) = some baseline ∧
          StuckPoll pipelineId poll (vhost, name) baseline.2.ackedTotal reading := by
  obtain ⟨available, entries⟩ := scraped_entries tracker poll samples name scraped unique
  have listed := reading_pipeline pipelineId tracker poll
  dsimp only
  rw [readingSamples, listed]
  dsimp only
  rw [if_pos available]
  rcases entries with ⟨absent, missing⟩ | ⟨vhost, sample, found, shown⟩
  · left
    rw [absent]
    exact ⟨rfl, missing⟩
  · right
    rw [shown]
    let queue := queueInfoOf (tracker.update samples poll.scrapedAt).2 ((vhost, name), sample)
    cases held : queue.zeroAck with
    | false =>
        left
        change [zeroAckSample _ queue] = _
        rw [zeroAckSample, held]
    | true =>
        right
        refine ⟨?_, ?_⟩
        · change [zeroAckSample _ queue] = _
          rw [zeroAckSample, held]
        · have zero : 0 < queue.messages ∧ queue.ackRate = some 0 := by
            simpa [QueueInfo.zeroAck] using held
          have computed : (tracker.rateOf poll.scrapedAt (vhost, name) sample).2 = some 0 := by
            have rated := zero.2
            change ((((tracker.update samples poll.scrapedAt).2.get? (vhost, name)).getD
              (none, none)).2) = some 0 at rated
            rw [RateTracker.update, Dict.get?_mapValues, found] at rated
            exact rated
          obtain ⟨baseline, before, same⟩ := rateOf_ack_zero _ _ _ _ computed
          exact ⟨vhost, baseline, before, ⟨samples, sample, scraped, found, zero.1, same.symm⟩,
            ⟨_, queue, listed, available, shown, zero⟩⟩

end Poll

@[simp] theorem polledReadings_cons (pipelineId : String) (poll : Poll) (earlier : List Poll) :
    polledReadings pipelineId (poll :: earlier) =
      poll.reading pipelineId (trackerAfter earlier) :: polledReadings pipelineId earlier := rfl

theorem polled_fst (pipelineId : String) (polls : List Poll) :
    (polled pipelineId polls).map Prod.fst = polls := by
  induction polls with
  | nil => rfl
  | cons poll earlier ih => rw [polled, List.map_cons, ih]

/-- A stuck run is the newest part of the polls, and the scrape before it shows the same total. -/
structure StuckRun (pipelineId name : String) (times : List Seconds)
    (history : List (Poll × SystemMetrics)) (vhost : String) (total : ℚ)
    (run older : List (Poll × SystemMetrics)) : Prop where
  split : history = run ++ older
  instants : run.map (fun entry => entry.2.timestamp) = times
  stuck : ∀ entry ∈ run, StuckPoll pipelineId entry.1 (vhost, name) total entry.2
  before : ∃ sample, LastScrape (vhost, name) sample (older.map Prod.fst) ∧
    sample.ackedTotal = total

/-- Two samples of one name in a scrape are the same sample. -/
theorem unique_sample (samples : Samples) (unique : UniqueNames samples) (first second name : String)
    (left right : QueueSample) (one : samples.get? (first, name) = some left)
    (other : samples.get? (second, name) = some right) : first = second ∧ left = right := by
  rw [Dict.get?_eq_some_iff] at one other
  have same := List.inj_on_of_nodup_map unique one other rfl
  rw [Prod.mk.injEq, Prod.mk.injEq] at same
  exact ⟨same.1.1, same.2⟩

/-- A zero-ack poll was scraped, and the scrape before it shows the same total. -/
theorem zeroAck_poll (pipelineId name : String) (poll : Poll) (earlier : List Poll)
    (unique : ∀ samples, poll.scrape = some samples → UniqueNames samples) (time : Seconds)
    (held : readingSamples (pipelineId, name)
      (poll.reading pipelineId (trackerAfter earlier)) = [.read time true]) :
    ∃ vhost sample, LastScrape (vhost, name) sample earlier ∧
      StuckPoll pipelineId poll (vhost, name) sample.ackedTotal
        (poll.reading pipelineId (trackerAfter earlier)) := by
  cases scraped : poll.scrape with
  | none =>
      rw [failed_samples _ _ _ _ scraped] at held
      simp at held
  | some samples =>
      rcases scraped_samples pipelineId (trackerAfter earlier) poll name samples scraped
        (unique samples scraped) with absent | lost | ⟨_, vhost, baseline, found, stuck⟩
      · rw [absent.1] at held
        simp at held
      · rw [lost] at held
        simp at held
      · exact ⟨vhost, baseline.2, trackerAfter_previous earlier _ _ found, stuck⟩

/-- Before a zero-ack poll the run is empty, or it ends at a zero-ack poll of the scrape before. -/
theorem inner_run (pipelineId name vhost : String) (previous : Poll) (before : List Poll)
    (sample : QueueSample) (last : LastScrape (vhost, name) sample (previous :: before))
    (unique : ∀ samples, previous.scrape = some samples → UniqueNames samples) :
    currentRun gapSeconds (historySamples (pipelineId, name)
        (polledReadings pipelineId (previous :: before))) = [] ∨
      (∃ samples, previous.scrape = some samples ∧ samples.get? (vhost, name) = some sample) ∧
        readingSamples (pipelineId, name)
          (previous.reading pipelineId (trackerAfter before)) =
            [.read (previous.reading pipelineId (trackerAfter before)).timestamp true] := by
  rw [polledReadings_cons, historySamples_cons]
  obtain ⟨failures, poll, rest, samples, split, failed, scraped, found⟩ := last
  cases failures with
  | cons failure failures =>
      rw [List.cons_append, List.cons.injEq] at split
      left
      rw [failed_samples _ _ _ _ (by rw [split.1]; exact failed failure List.mem_cons_self)]
      rfl
  | nil =>
      rw [List.nil_append, List.cons.injEq] at split
      rw [← split.1] at scraped
      rcases scraped_samples pipelineId (trackerAfter before) previous name samples scraped
        (unique samples scraped) with ⟨_, missing⟩ | lost | ⟨held, _⟩
      · rw [missing vhost] at found
        simp at found
      · left
        rw [lost]
        rfl
      · exact .inr ⟨⟨samples, scraped, found⟩, held⟩

/-- The zero-ack run that ends at a zero-ack poll is a stuck run. -/
theorem zeroAck_stuckRun (pipelineId name : String) (poll : Poll) (earlier : List Poll)
    (unique : ∀ other ∈ poll :: earlier, ∀ samples, other.scrape = some samples →
      UniqueNames samples)
    (held : readingSamples (pipelineId, name)
      (poll.reading pipelineId (trackerAfter earlier)) =
        [.read (poll.reading pipelineId (trackerAfter earlier)).timestamp true]) :
    ∃ vhost total run older, StuckRun pipelineId name
      (currentRun gapSeconds (historySamples (pipelineId, name)
        (polledReadings pipelineId (poll :: earlier))))
      (polled pipelineId (poll :: earlier)) vhost total
      ((poll, poll.reading pipelineId (trackerAfter earlier)) :: run) older := by
  induction earlier generalizing poll with
  | nil =>
      obtain ⟨vhost, sample, ⟨failures, last, rest, samples, split, _⟩, _⟩ :=
        zeroAck_poll pipelineId name poll [] (unique poll List.mem_cons_self) _ held
      simp at split
  | cons previous before ih =>
      obtain ⟨vhost, sample, last, stuck⟩ := zeroAck_poll pipelineId name poll
        (previous :: before) (unique poll List.mem_cons_self) _ held
      have known : ∀ other ∈ previous :: before, ∀ samples, other.scrape = some samples →
          UniqueNames samples := fun other member => unique other (List.mem_cons_of_mem _ member)
      have alone : ∀ times, times = [(poll.reading pipelineId
          (trackerAfter (previous :: before))).timestamp] →
          StuckRun pipelineId name times (polled pipelineId (poll :: previous :: before)) vhost
            sample.ackedTotal [(poll, poll.reading pipelineId (trackerAfter (previous :: before)))]
            (polled pipelineId (previous :: before)) := by
        intro times single
        refine ⟨rfl, by rw [single]; rfl, ?_, sample, ?_, rfl⟩
        · intro entry member
          rw [List.mem_singleton.mp member]
          exact stuck
        · rw [polled_fst]
          exact last
      rw [polledReadings_cons, historySamples_cons, held, List.singleton_append, currentRun_true]
      rcases inner_run pipelineId name vhost previous before sample last
        (known previous List.mem_cons_self) with empty | ⟨⟨samples, scraped, found⟩, inner⟩
      · rw [empty]
        exact ⟨vhost, sample.ackedTotal, [], _, alone _ rfl⟩
      · split
        · exact ⟨vhost, sample.ackedTotal, [], _, alone _ rfl⟩
        · obtain ⟨host, total, run, older, whole⟩ := ih previous known inner
          obtain ⟨other, value, again, shown, _, same⟩ :=
            (whole.stuck _ List.mem_cons_self).scraped
          have scrape : samples = other := by
            rw [scraped, Option.some.injEq] at again
            exact again
          rw [← scrape] at shown
          obtain ⟨hosts, values⟩ := unique_sample samples
            (known previous List.mem_cons_self samples scraped) vhost host name sample value found
            shown
          rw [← hosts, ← same, ← values] at whole
          refine ⟨vhost, sample.ackedTotal,
            (previous, previous.reading pipelineId (trackerAfter before)) :: run, older, ?_, ?_, ?_,
            whole.before⟩
          · rw [polled, whole.split]
            rfl
          · rw [List.map_cons, whole.instants]
          · intro entry member
            rw [List.mem_cons] at member
            rcases member with newest | member
            · rw [newest]
              exact stuck
            · exact whole.stuck entry member

/-- A true stall is a stuck run over the stall bound whose consecutive polls are at most the gap
apart. -/
def TrueStall (pipelineId name : String) (history : List (Poll × SystemMetrics)) : Prop :=
  ∃ vhost total newest run older first, history = newest :: run ++ older ∧
    (∀ entry ∈ newest :: run, StuckPoll pipelineId entry.1 (vhost, name) total entry.2) ∧
    (newest :: run).getLast? = some first ∧
    stallSeconds ≤ newest.2.timestamp - first.2.timestamp ∧
    (newest :: run).IsChain (fun later former =>
      later.2.timestamp - former.2.timestamp ≤ gapSeconds) ∧
    ∃ sample, LastScrape (vhost, name) sample (older.map Prod.fst) ∧ sample.ackedTotal = total

/-- A visit to a polled queue finds no other entry of that queue in its reading. -/
theorem polled_visit_entries (config : DetectorConfig) (state : Detector) (pipelineId : String)
    (tracker : RateTracker) (poll : Poll)
    (unique : ∀ samples, poll.scrape = some samples → UniqueNames samples) (visit : QueueVisit)
    (member : visit ∈ queueVisits config state (poll.reading pipelineId tracker))
    (polledPipeline : visit.pipelineId = pipelineId) :
    visit.pipeline.queuesAvailable = true ∧ visit.pipeline.entries visit.queue.name = [visit.queue] := by
  obtain ⟨_, listed, available⟩ := mem_queueVisits_reading config state _ visit member
  refine ⟨available, ?_⟩
  obtain ⟨before, rest, split, _⟩ := visit_memory config state _ visit member
  have inside : visit.queue ∈ visit.pipeline.entries visit.queue.name := by
    rw [PipelineMetrics.entries, List.mem_filter, split]
    simp
  rw [polledPipeline, reading_pipeline, Option.some.injEq] at listed
  cases scraped : poll.scrape with
  | none =>
      rw [← listed, scraped] at available
      simp [collectPipeline, getQueueInfo] at available
  | some samples =>
      obtain ⟨_, entries⟩ := scraped_entries tracker poll samples visit.queue.name scraped
        (unique samples scraped)
      rw [listed] at entries
      rcases entries with ⟨absent, _⟩ | ⟨vhost, sample, _, shown⟩
      · rw [absent] at inside
        simp at inside
      · rw [shown, List.mem_singleton] at inside
        rw [shown, ← inside]

/-- Every stall verdict on a polled queue is a true stall. -/
theorem stall_verdict_true (config : DetectorConfig) (pipelineId : String) (poll : Poll)
    (earlier : List Poll)
    (unique : ∀ other ∈ poll :: earlier, ∀ samples, other.scrape = some samples →
      UniqueNames samples) (visit : QueueVisit)
    (member : visit ∈ queueVisits config
      (detectorAfter config (polledReadings pipelineId earlier))
      (poll.reading pipelineId (trackerAfter earlier)))
    (polledPipeline : visit.pipelineId = pipelineId)
    (stalled : visit.conditionKind config
      (poll.reading pipelineId (trackerAfter earlier)).timestamp = some .stalled) :
    TrueStall pipelineId visit.queue.name (polled pipelineId (poll :: earlier)) := by
  let reading := poll.reading pipelineId (trackerAfter earlier)
  have key : visit.key = (pipelineId, visit.queue.name) := Prod.ext polledPipeline rfl
  obtain ⟨before, rest, split, memory⟩ := visit_memory config _ reading visit member
  obtain ⟨_, long⟩ := (visit_stalled_iff config _ reading visit before member memory).mp stalled
  obtain ⟨available, entries⟩ := polled_visit_entries config _ pipelineId (trackerAfter earlier)
    poll (unique poll List.mem_cons_self) visit member polledPipeline
  have listed := (mem_queueVisits_reading config _ reading visit member).2.1
  rw [polledPipeline] at listed
  have none : before.filter (fun queue => queue.name = visit.queue.name) = [] := by
    have parts := entries
    rw [PipelineMetrics.entries, split, List.filter_append, List.filter_cons,
      if_pos (decide_eq_true rfl)] at parts
    have size := congrArg List.length parts
    simp only [List.length_append, List.length_cons, List.length_nil] at size
    exact List.length_eq_zero_iff.mp (by omega)
  have samples : readingSamples (pipelineId, visit.queue.name) reading =
      [zeroAckSample reading.timestamp visit.queue] := by
    rw [readingSamples, listed]
    dsimp only
    rw [if_pos available, entries]
    rfl
  have held : zeroAckSample reading.timestamp visit.queue = .read reading.timestamp true := by
    rw [zeroAckSample, zeroAck_of_long _ _ _ _ _ long]
  obtain ⟨vhost, total, run, older, whole⟩ := zeroAck_stuckRun pipelineId visit.queue.name poll
    earlier unique (samples.trans (by rw [held]))
  obtain ⟨start, first, far⟩ := long
  rw [zeroAckRun, key] at first
  dsimp only at first
  rw [none, show entrySamples reading.timestamp [] = [] from rfl, List.nil_append,
    ← List.singleton_append, ← samples, ← historySamples_cons, ← polledReadings_cons,
    ← whole.instants, List.getLast?_map, Option.map_eq_some_iff] at first
  obtain ⟨oldest, last, instant⟩ := first
  have chain := currentRun_chain gapSeconds (historySamples (pipelineId, visit.queue.name)
    (polledReadings pipelineId (poll :: earlier)))
  rw [← whole.instants, List.isChain_map] at chain
  refine ⟨vhost, total, (poll, reading), run, older, oldest, whole.split, whole.stuck, last, ?_,
    chain, whole.before⟩
  rw [instant]
  exact far

/-- This poll scrapes one queue that has a backlog and a consumer. -/
def consumedPoll (time : Seconds) (ackedTotal : ℚ) : Poll where
  scrape := some (Dict.empty.set ("/", "work") ⟨8, 8, 0, 1, 20, ackedTotal⟩)
  scrapedAt := time
  services := []
  others := { pipelines := Dict.empty, timestamp := time }

/-- These polls see no acknowledgement for a minute after the first rate. -/
def idlePolls : List Poll :=
  [consumedPoll 90 12, consumedPoll 60 12, consumedPoll 30 12, consumedPoll 0 12]

/-- The queue of the idle polls is stalled in truth. -/
theorem idlePolls_stalled : TrueStall "discogs" "work" (polled "discogs" idlePolls) := by
  have unique : ∀ poll ∈ idlePolls, ∀ samples, poll.scrape = some samples → UniqueNames samples := by
    intro poll member samples scraped
    simp only [idlePolls, List.mem_cons, List.not_mem_nil, or_false] at member
    rcases member with same | same | same | same <;> subst same <;>
      rw [consumedPoll, Option.some.injEq] at scraped <;> rw [← scraped] <;>
      exact List.nodup_singleton _
  have verdicts : (queueVisits { workQueues := ["work"] }
      (detectorAfter { workQueues := ["work"] } (polledReadings "discogs" idlePolls.tail))
      ((consumedPoll 90 12).reading "discogs" (trackerAfter idlePolls.tail))).map
        (fun visit => (visit.key, visit.conditionKind { workQueues := ["work"] } 90)) =
      [(("discogs", "work"), some .stalled)] := by
    decide +kernel
  obtain ⟨visit, member, same⟩ := List.mem_map.mp (by
    rw [verdicts]
    exact List.mem_singleton_self _)
  rw [Prod.mk.injEq] at same
  have named : visit.queue.name = "work" := congrArg Prod.snd same.1
  rw [← named]
  exact stall_verdict_true { workQueues := ["work"] } "discogs" (consumedPoll 90 12)
    idlePolls.tail unique visit member (congrArg Prod.fst same.1) same.2

end OperationsConsole
