/-
This file embeds the rate tracker of `dashboard/queue_metrics.py` and the pipeline collection.
A scrape is read into one sample per queue, or it fails as a whole.
-/

import Mathlib.Data.List.Sort
import OperationsConsole.Events.Readings
import OperationsConsole.Library.Loop

namespace OperationsConsole

open Library

/-- The gauges and cumulative counters of one queue in a single scrape. -/
structure QueueSample where
  messages : ℤ := 0
  messagesReady : ℤ := 0
  messagesUnacknowledged : ℤ := 0
  consumers : ℤ := 0
  publishedTotal : ℚ := 0
  ackedTotal : ℚ := 0
  deriving DecidableEq

/-- A sample is known by its virtual host and its queue name. -/
abbrev SampleKey := String × String

abbrev Samples := Dict SampleKey QueueSample

/-- A counter that went down has no rate. -/
def rate (before after elapsed : ℚ) : Option ℚ :=
  if after < before then none else some ((after - before) / elapsed)

/-- The tracker keeps the time and the samples of the last scrape. -/
structure RateTracker where
  previous : Dict SampleKey (Seconds × QueueSample) := Dict.empty
  deriving DecidableEq

/-- A queue without an older baseline has no publish rate and no ack rate. -/
def RateTracker.rateOf (tracker : RateTracker) (now : Seconds) (key : SampleKey)
    (sample : QueueSample) : Option ℚ × Option ℚ :=
  match tracker.previous.get? key with
  | none => (none, none)
  | some baseline =>
      if now ≤ baseline.1 then (none, none)
      else
        let elapsed := now - baseline.1
        (rate baseline.2.publishedTotal sample.publishedTotal elapsed,
          rate baseline.2.ackedTotal sample.ackedTotal elapsed)

def RateTracker.update (tracker : RateTracker) (samples : Samples) (now : Seconds) :
    RateTracker × Dict SampleKey (Option ℚ × Option ℚ) :=
  (⟨samples.mapValues fun _ sample => (now, sample)⟩, samples.mapValues (tracker.rateOf now))

def queueInfoOf (rates : Dict SampleKey (Option ℚ × Option ℚ)) (item : SampleKey × QueueSample) :
    QueueInfo :=
  let rates := (rates.get? item.1).getD (none, none)
  { name := item.1.2
    messages := item.2.messages
    messagesReady := item.2.messagesReady
    messagesUnacknowledged := item.2.messagesUnacknowledged
    consumers := item.2.consumers
    messageRate := rates.1
    ackRate := rates.2 }

/-- A failed scrape leaves the tracker unchanged and gives no queues. -/
def getQueueInfo (tracker : RateTracker) (scrape : Option Samples) (now : Seconds) :
    RateTracker × Option (List QueueInfo) :=
  match scrape with
  | none => (tracker, none)
  | some samples =>
      let updated := tracker.update samples now
      let sorted := samples.items.mergeSort fun first second => first.1.2 ≤ second.1.2
      (updated.1, some (sorted.map (queueInfoOf updated.2)))

def collectPipeline (services : List ServiceStatus) (queues : Option (List QueueInfo)) :
    PipelineMetrics where
  services := services
  queues := queues.getD []
  queuesAvailable := queues.isSome
  down := services.all fun service => service.status = "unknown"

/-- One poll scrapes the queues of a pipeline and reads everything else. -/
structure Poll where
  scrape : Option Samples
  scrapedAt : Seconds
  services : List ServiceStatus
  others : SystemMetrics

/-- The reading of a poll holds the pipeline among the other results of the poll. -/
def Poll.reading (pipelineId : String) (tracker : RateTracker) (poll : Poll) : SystemMetrics :=
  let queues := (getQueueInfo tracker poll.scrape poll.scrapedAt).2
  { poll.others with
    pipelines := poll.others.pipelines.set pipelineId (collectPipeline poll.services queues) }

def Poll.tracker (tracker : RateTracker) (poll : Poll) : RateTracker :=
  (getQueueInfo tracker poll.scrape poll.scrapedAt).1

/-- The tracker after the polls of a history, the newest first. -/
def trackerAfter (polls : List Poll) : RateTracker := after Poll.tracker {} polls

/-- The polls of a history with the readings they gave, the newest first. -/
def polled (pipelineId : String) : List Poll → List (Poll × SystemMetrics)
  | [] => []
  | poll :: earlier =>
      (poll, poll.reading pipelineId (trackerAfter earlier)) :: polled pipelineId earlier

/-- The detector observes the readings of the polls. -/
def polledReadings (pipelineId : String) (polls : List Poll) : List SystemMetrics :=
  (polled pipelineId polls).map Prod.snd

/-- A rate is zero exactly when the counter did not move. -/
theorem rate_zero_iff (before now elapsed : ℚ) (positive : 0 < elapsed) :
    rate before now elapsed = some 0 ↔ now = before := by
  unfold rate
  split
  · rename_i reset
    simp [ne_of_lt reset]
  · rw [Option.some.injEq, div_eq_zero_iff, or_iff_left (ne_of_gt positive), sub_eq_zero]

/-- A zero ack rate needs an older baseline with the same total. -/
theorem rateOf_ack_zero (tracker : RateTracker) (now : Seconds) (key : SampleKey)
    (sample : QueueSample) (zero : (tracker.rateOf now key sample).2 = some 0) :
    ∃ baseline, tracker.previous.get? key = some baseline ∧
      baseline.2.ackedTotal = sample.ackedTotal := by
  unfold RateTracker.rateOf at zero
  cases found : tracker.previous.get? key with
  | none => simp [found] at zero
  | some baseline =>
      refine ⟨baseline, rfl, ?_⟩
      rw [found] at zero
      dsimp only at zero
      split at zero
      · simp at zero
      · rename_i older
        rw [rate_zero_iff _ _ _ (sub_pos.mpr (not_le.mp older))] at zero
        exact zero.symm

/-- The last scrape of a history that succeeded shows a sample. -/
def LastScrape (key : SampleKey) (sample : QueueSample) (polls : List Poll) : Prop :=
  ∃ failures poll earlier samples, polls = failures ++ poll :: earlier ∧
    (∀ failure ∈ failures, failure.scrape = none) ∧ poll.scrape = some samples ∧
    samples.get? key = some sample

/-- The tracker holds exactly the samples of the last scrape that succeeded. -/
theorem trackerAfter_previous (polls : List Poll) (key : SampleKey) (baseline : Seconds × QueueSample)
    (found : (trackerAfter polls).previous.get? key = some baseline) :
    LastScrape key baseline.2 polls := by
  induction polls with
  | nil => simp [trackerAfter] at found
  | cons poll earlier ih =>
      rw [trackerAfter, after_cons, ← trackerAfter] at found
      unfold Poll.tracker getQueueInfo at found
      cases scraped : poll.scrape with
      | none =>
          rw [scraped] at found
          obtain ⟨failures, last, rest, samples, split, failed, succeeded, shown⟩ := ih found
          refine ⟨poll :: failures, last, rest, samples, by rw [split, List.cons_append], ?_,
            succeeded, shown⟩
          intro failure member
          rw [List.mem_cons] at member
          rcases member with equal | member
          · rw [equal]
            exact scraped
          · exact failed failure member
      | some samples =>
          rw [scraped] at found
          dsimp only [RateTracker.update] at found
          rw [Dict.get?_mapValues, Option.map_eq_some_iff] at found
          obtain ⟨sample, shown, same⟩ := found
          refine ⟨[], poll, earlier, samples, rfl, by simp, scraped, ?_⟩
          rw [← same]
          exact shown

end OperationsConsole
