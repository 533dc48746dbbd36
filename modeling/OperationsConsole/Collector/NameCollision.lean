/-
This file proves that a queue name that is scraped twice can be announced twice.
The broker holds the same queues in every poll, and only their counts differ.
-/

import OperationsConsole.Collector.RepeatedNames

namespace OperationsConsole

open Library

/-- The detector after earlier polls, the newest first. -/
def polledDetector (configs : Dict String PipelineConfig) (earlier : List Answers) : Detector :=
  detectorAfter (detectorConfig configs) (earlier.map (collectAllMetrics configs))

/-- After any earlier polls, every poll of a broker with these queues announces each queue once. -/
def AlwaysOnce (configs : Dict String PipelineConfig) (answers : Answers) : Prop :=
  ∀ earlier poll, SameQueues poll answers →
    AnnouncesOnce (detectorConfig configs) (polledDetector configs earlier)
      (collectAllMetrics configs poll)

/-- The broker holds the same queues with other samples, and no service answers. -/
def Answers.withSamples (answers : Answers) (sample : SampleKey → QueueSample) : Answers :=
  { answers with
    broker := fun pipelineId => (answers.broker pipelineId).map fun samples =>
      samples.mapValues fun key _ => sample key
    health := fun _ _ => .failed }

/-- The scrape of a pipeline lists a queue. -/
def Scrapes (configs : Dict String PipelineConfig) (answers : Answers) (pipelineId : String)
    (key : SampleKey) : Prop :=
  ∃ config samples, configs.get? pipelineId = some config ∧
    answers.broker pipelineId = some samples ∧
      key ∈ (selectQueues config.queuePrefix samples).items.map Prod.fst

/-- A pipeline of a reading shows the samples of its scrape. -/
structure Sampled (configs : Dict String PipelineConfig) (answers : Answers)
    (sample : SampleKey → QueueSample) (pipelineId : String) (pipeline : PipelineMetrics) :
    Prop where
  listed : (collectAllMetrics configs (answers.withSamples sample)).pipelines.get? pipelineId =
    some pipeline
  scraped : pipeline.queuesAvailable = true
  entry : ∀ key, Scrapes configs answers pipelineId key → ∃ queue ∈ pipeline.queues,
    queue.name = key.2 ∧ queue.messages = (sample key).messages ∧
      queue.consumers = (sample key).consumers
  source : ∀ queue ∈ pipeline.queues, ∃ key, queue.name = key.2 ∧
    queue.messages = (sample key).messages ∧ queue.consumers = (sample key).consumers
  unanswered : ∀ config queue, listedAsAwaiting config pipeline queue = false

section Samples

variable (configs : Dict String PipelineConfig) (answers : Answers)
variable (sample : SampleKey → QueueSample)

theorem withSamples_same : SameQueues (answers.withSamples sample) answers := by
  intro pipelineId
  show ((answers.broker pipelineId).map _).map _ = _
  rw [Option.map_map]
  congr 1
  funext samples
  show (samples.items.map fun item => (item.1, sample item.1)).map Prod.fst = _
  rw [List.map_map]
  rfl

/-- A service that does not answer lists no type as awaiting. -/
theorem listedAsAwaiting_failed (config : DetectorConfig) (pipeline : PipelineMetrics)
    (failed : ∀ service ∈ pipeline.services, service.awaitingExtractionComplete = none)
    (queue : QueueInfo) : listedAsAwaiting config pipeline queue = false := by
  unfold listedAsAwaiting
  cases config.queueOwners.get? queue.name with
  | none => rfl
  | some owner =>
      dsimp only
      split
      · cases found : pipeline.services.find? fun service => service.name = owner.1 with
        | none => rfl
        | some service =>
            rw [Option.bind_some, failed service (List.mem_of_find?_eq_some found)]
      · rfl

theorem sampled_of_scrapes (pipelineId : String) (key : SampleKey)
    (scrapes : Scrapes configs answers pipelineId key) :
    ∃ pipeline, Sampled configs answers sample pipelineId pipeline := by
  obtain ⟨config, samples, configured, held, _⟩ := scrapes
  have scrape : (answers.withSamples sample).broker pipelineId =
      some (samples.mapValues fun key _ => sample key) := by
    show (answers.broker pipelineId).map _ = _
    rw [held]
    rfl
  have available : (readPipeline (answers.withSamples sample) pipelineId
      config).queuesAvailable = true := by
    unfold readPipeline
    rw [scrape]
    rfl
  have queues : ∀ queue, queue ∈ (readPipeline (answers.withSamples sample) pipelineId
      config).queues ↔ ∃ item ∈ (selectQueues config.queuePrefix
        (samples.mapValues fun key _ => sample key)).items,
          queueInfoOf ((answers.tracker pipelineId).update (selectQueues config.queuePrefix
            (samples.mapValues fun key _ => sample key)) (answers.scrapedAt pipelineId)).2 item =
              queue := by
    intro queue
    unfold readPipeline
    rw [scrape]
    show queue ∈ ((List.mergeSort _ _).map _) ↔ _
    simp only [List.mem_map, List.mem_mergeSort]
    rfl
  have selected : ∀ item, item ∈ (selectQueues config.queuePrefix
      (samples.mapValues fun key _ => sample key)).items ↔
        item.1 ∈ (selectQueues config.queuePrefix samples).items.map Prod.fst ∧
          item.2 = sample item.1 := by
    intro item
    simp only [selectQueues, Dict.filter, Dict.mapValues, List.mem_filter, List.mem_map]
    constructor
    · rintro ⟨⟨entry, member, same⟩, matching⟩
      rw [← same] at matching ⊢
      exact ⟨⟨entry, ⟨member, matching⟩, rfl⟩, rfl⟩
    · rintro ⟨⟨entry, ⟨member, matching⟩, same⟩, value⟩
      refine ⟨⟨entry, member, ?_⟩, same ▸ matching⟩
      rw [same, ← value]
  refine ⟨readPipeline (answers.withSamples sample) pipelineId config, ?_, available, ?_, ?_, ?_⟩
  · show (configs.mapValues _).get? pipelineId = _
    rw [Dict.get?_mapValues, configured]
    rfl
  · rintro other ⟨otherConfig, otherSamples, otherConfigured, otherHeld, member⟩
    rw [configured, Option.some.injEq] at otherConfigured
    rw [held, Option.some.injEq] at otherHeld
    subst otherConfigured
    subst otherHeld
    exact ⟨_, (queues _).mpr ⟨(other, sample other), (selected _).mpr ⟨member, rfl⟩, rfl⟩,
      rfl, rfl, rfl⟩
  · intro queue member
    obtain ⟨item, inside, same⟩ := (queues queue).mp member
    refine ⟨item.1, ?_⟩
    rw [← same, ← ((selected item).mp inside).2]
    exact ⟨rfl, rfl, rfl⟩
  · intro detector queue
    apply listedAsAwaiting_failed
    intro service member
    obtain ⟨name, _, same⟩ := List.mem_map.mp member
    rw [← same]
    rfl

end Samples

section Kinds

/-- A queue with messages and no consumer is remembered as such when no service answers. -/
theorem kind_noConsumer (memory : QueueMemory) (bound now : Seconds) (queue : QueueInfo)
    (backlog : 0 < queue.messages) (idle : queue.consumers = 0) :
    rememberedKind (memory.conditionAt bound now false queue) = some .noConsumer := by
  unfold QueueMemory.conditionAt conditionOf QueueMemory.waitingAt
  rw [if_pos ⟨backlog, idle⟩]
  rfl

/-- An empty queue is remembered as healthy. -/
theorem kind_empty (memory : QueueMemory) (bound now : Seconds) (listed : Bool)
    (queue : QueueInfo) (empty : queue.messages = 0) :
    rememberedKind (memory.conditionAt bound now listed queue) = none := by
  unfold QueueMemory.conditionAt conditionOf
  rw [if_neg (by omega), if_neg (by omega)]
  rfl

end Kinds

section Collisions

variable (configs : Dict String PipelineConfig) (answers : Answers)
variable (always : AlwaysOnce configs answers)

include always

/-- The scrape of a pipeline lists a dead letter queue in one virtual host only. -/
theorem deadLetter_within (pipelineId : String) (first second : SampleKey)
    (one : Scrapes configs answers pipelineId first)
    (other : Scrapes configs answers pipelineId second) (same : second.2 = first.2)
    (watched : first.2 ∈ (detectorConfig configs).deadLetterQueues) : first = second := by
  by_contra distinct
  let config := detectorConfig configs
  let sample : SampleKey → QueueSample := fun key => { messages := if key = first then 1 else 2 }
  let metrics := collectAllMetrics configs (answers.withSamples sample)
  let state := (observe config {} metrics).state
  obtain ⟨pipeline, sampled⟩ := sampled_of_scrapes configs answers sample pipelineId first one
  have quiet : (observe config state metrics).events = [] :=
    (always [] _ (withSamples_same answers sample)).quiet
  have pass := quiet_pass config state metrics pipelineId pipeline sampled.listed quiet
  obtain ⟨low, lowMember, lowNamed, lowCount, _⟩ := sampled.entry first one
  obtain ⟨high, highMember, highNamed, highCount, _⟩ := sampled.entry second other
  obtain ⟨last, _, _, depth, known⟩ := observe_depth config {} metrics pipelineId pipeline first.2
    sampled.listed watched sampled.scraped ⟨low, lowMember, lowNamed⟩
  obtain ⟨bound, left, entries⟩ := pipelineStep_silent_depths config pipelineId pipeline
    metrics.timestamp first.2 state watched sampled.scraped last.messages known (by rw [pass]; rfl)
  rw [depth, Option.some.injEq] at left
  have lowEntry := entries low lowMember lowNamed
  have highEntry := entries high highMember (highNamed.trans same)
  simp only [sample, if_true] at lowCount
  simp only [sample, if_neg (Ne.symm distinct)] at highCount
  omega

/-- The scrape of a pipeline lists a work queue in one virtual host only. -/
theorem work_within (pipelineId : String) (first second : SampleKey)
    (one : Scrapes configs answers pipelineId first)
    (other : Scrapes configs answers pipelineId second) (same : second.2 = first.2)
    (watched : first.2 ∈ (detectorConfig configs).workQueues) : first = second := by
  by_contra distinct
  let config := detectorConfig configs
  let sample : SampleKey → QueueSample := fun key => { messages := if key = first then 1 else 0 }
  let metrics := collectAllMetrics configs (answers.withSamples sample)
  let state := (observe config {} metrics).state
  obtain ⟨pipeline, sampled⟩ := sampled_of_scrapes configs answers sample pipelineId first one
  have quiet : (observe config state metrics).events = [] :=
    (always [] _ (withSamples_same answers sample)).quiet
  have pass := quiet_pass config state metrics pipelineId pipeline sampled.listed quiet
  obtain ⟨busy, busyMember, busyNamed, busyCount, busyIdle⟩ := sampled.entry first one
  obtain ⟨empty, emptyMember, emptyNamed, emptyCount, _⟩ := sampled.entry second other
  obtain ⟨last, _, _, memory, known⟩ := observe_kind config {} metrics pipelineId pipeline first.2
    sampled.listed watched sampled.scraped ⟨busy, busyMember, busyNamed⟩
  have kinds := pipelineStep_silent_kinds config pipelineId pipeline metrics.timestamp first.2 state
    watched sampled.scraped _ known (by rw [pass]; rfl)
  obtain ⟨busyMemory, busyKind⟩ := kinds busy busyMember busyNamed
  obtain ⟨emptyMemory, emptyKind⟩ := kinds empty emptyMember (emptyNamed.trans same)
  simp only [sample, if_true] at busyCount
  simp only [sample, if_neg (Ne.symm distinct)] at emptyCount
  rw [sampled.unanswered, kind_noConsumer _ _ _ busy (by omega) busyIdle] at busyKind
  rw [kind_empty _ _ _ _ empty emptyCount, ← busyKind] at emptyKind
  simp at emptyKind

/-- The scrape of one pipeline only lists a dead letter queue. -/
theorem deadLetter_across (pipelineId otherId : String) (first second : SampleKey)
    (one : Scrapes configs answers pipelineId first)
    (other : Scrapes configs answers otherId second) (same : second.2 = first.2)
    (watched : first.2 ∈ (detectorConfig configs).deadLetterQueues) : pipelineId = otherId := by
  by_contra distinct
  let config := detectorConfig configs
  let empty : SampleKey → QueueSample := fun _ => {}
  let filled : SampleKey → QueueSample := fun _ => { messages := 1 }
  let baseline := answers.withSamples empty
  let metrics := collectAllMetrics configs (answers.withSamples filled)
  let state := (observe config {} (collectAllMetrics configs baseline)).state
  have grows : ∀ id key, Scrapes configs answers id key → key.2 = first.2 → ∃ pipeline,
      metrics.pipelines.get? id = some pipeline ∧
        0 < (pipelineStep config metrics.timestamp state (id, pipeline)).2.found.countP
          (newsOf dlqFamily first.2) := by
    intro id key scrapes named
    obtain ⟨before, was⟩ := sampled_of_scrapes configs answers empty id key scrapes
    obtain ⟨pipeline, sampled⟩ := sampled_of_scrapes configs answers filled id key scrapes
    obtain ⟨old, oldMember, oldNamed, _⟩ := was.entry key scrapes
    obtain ⟨queue, member, queueNamed, count, _⟩ := sampled.entry key scrapes
    obtain ⟨last, lastMember, _, _, known⟩ := observe_depth config {} _ id before first.2 was.listed
      watched was.scraped ⟨old, oldMember, oldNamed.trans named⟩
    obtain ⟨source, _, drained, _⟩ := was.source last lastMember
    refine ⟨pipeline, sampled.listed, ?_⟩
    by_contra silent
    obtain ⟨_, _, entries⟩ := pipelineStep_silent_depths config id pipeline metrics.timestamp first.2
      state watched sampled.scraped last.messages known (by omega)
    have entry := entries queue member (queueNamed.trans named)
    simp only [empty] at drained
    simp only [filled] at count
    omega
  obtain ⟨pipeline, listed, news⟩ := grows pipelineId first one rfl
  obtain ⟨otherPipeline, otherListed, otherNews⟩ := grows otherId second other same
  have both := observe_both_news config state metrics pipelineId pipeline listed otherId
    otherPipeline distinct otherListed (newsOf dlqFamily first.2)
  have once := (always [baseline] _ (withSamples_same answers filled)).deadLetters first.2
  change List.countP _ ((observe config state metrics).events.map Event.found) ≤ 1 at once
  omega

/-- The scrape of one pipeline only lists a work queue. -/
theorem work_across (pipelineId otherId : String) (first second : SampleKey)
    (one : Scrapes configs answers pipelineId first)
    (other : Scrapes configs answers otherId second) (same : second.2 = first.2)
    (watched : first.2 ∈ (detectorConfig configs).workQueues) : pipelineId = otherId := by
  by_contra distinct
  let config := detectorConfig configs
  let idle : SampleKey → QueueSample := fun _ => { messages := 1 }
  let drained : SampleKey → QueueSample := fun _ => {}
  let baseline := answers.withSamples idle
  let metrics := collectAllMetrics configs (answers.withSamples drained)
  let state := (observe config {} (collectAllMetrics configs baseline)).state
  have recovers : ∀ id key, Scrapes configs answers id key → key.2 = first.2 → ∃ pipeline,
      metrics.pipelines.get? id = some pipeline ∧
        0 < (pipelineStep config metrics.timestamp state (id, pipeline)).2.found.countP
          (newsOf queueFamily first.2) := by
    intro id key scrapes named
    obtain ⟨before, was⟩ := sampled_of_scrapes configs answers idle id key scrapes
    obtain ⟨pipeline, sampled⟩ := sampled_of_scrapes configs answers drained id key scrapes
    obtain ⟨old, oldMember, oldNamed, _⟩ := was.entry key scrapes
    obtain ⟨queue, member, queueNamed, count, _⟩ := sampled.entry key scrapes
    obtain ⟨last, lastMember, _, memory, known⟩ := observe_kind config {} _ id before first.2
      was.listed watched was.scraped ⟨old, oldMember, oldNamed.trans named⟩
    obtain ⟨source, _, backlog, unconsumed⟩ := was.source last lastMember
    simp only [idle] at backlog unconsumed
    rw [was.unanswered, kind_noConsumer _ _ _ last (by omega) unconsumed] at known
    refine ⟨pipeline, sampled.listed, ?_⟩
    by_contra silent
    obtain ⟨after, kept⟩ := pipelineStep_silent_kinds config id pipeline metrics.timestamp first.2
      state watched sampled.scraped _ known (by omega) queue member (queueNamed.trans named)
    rw [kind_empty _ _ _ _ queue count] at kept
    simp at kept
  obtain ⟨pipeline, listed, news⟩ := recovers pipelineId first one rfl
  obtain ⟨otherPipeline, otherListed, otherNews⟩ := recovers otherId second other same
  have both := observe_both_news config state metrics pipelineId pipeline listed otherId
    otherPipeline distinct otherListed (newsOf queueFamily first.2)
  have once := (always [baseline] _ (withSamples_same answers drained)).work first.2
  change List.countP _ ((observe config state metrics).events.map Event.found) ≤ 1 at once
  omega

end Collisions

/-- Watched names are scraped once when no key shares its name with another key or pipeline. -/
theorem scrapedNames_nodup (configs : Dict String PipelineConfig) (answers : Answers)
    (watched : List String)
    (within : ∀ pipelineId first second, Scrapes configs answers pipelineId first →
      Scrapes configs answers pipelineId second → second.2 = first.2 → first.2 ∈ watched →
        first = second)
    (across : ∀ pipelineId otherId first second, Scrapes configs answers pipelineId first →
      Scrapes configs answers otherId second → second.2 = first.2 → first.2 ∈ watched →
        pipelineId = otherId) :
    ((scrapedNames configs answers).filter fun name => name ∈ watched).Nodup := by
  let names : String × PipelineConfig → List String := fun item =>
    ((answers.broker item.1).map (selectQueues item.2.queuePrefix)).elim [] fun samples =>
      samples.items.map fun entry => entry.1.2
  have scraped : ∀ item ∈ configs.items, ∀ name ∈ names item,
      ∃ key, Scrapes configs answers item.1 key ∧ key.2 = name := by
    intro item member name inside
    cases held : answers.broker item.1 with
    | none => simp [names, held] at inside
    | some samples =>
        simp only [names, held, Option.map_some, Option.elim_some, List.mem_map] at inside
        obtain ⟨entry, listed, same⟩ := inside
        exact ⟨entry.1, ⟨item.2, samples, (Dict.get?_eq_some_iff _ _ _).mpr member, held,
          List.mem_map_of_mem listed⟩, same⟩
  show ((configs.items.flatMap names).filter _).Nodup
  rw [List.filter_flatMap, List.nodup_flatMap]
  constructor
  · intro item member
    cases held : answers.broker item.1 with
    | none => simp [names, held]
    | some samples =>
        simp only [names, held, Option.map_some, Option.elim_some]
        rw [List.filter_map]
        apply List.Nodup.map_on
        · intro entry listed other otherListed same
          have scrapes : ∀ entry ∈ (selectQueues item.2.queuePrefix samples).items,
              Scrapes configs answers item.1 entry.1 := fun entry inside =>
            ⟨item.2, samples, (Dict.get?_eq_some_iff _ _ _).mpr member, held,
              List.mem_map_of_mem inside⟩
          have inside := List.mem_filter.mp listed
          have otherInside := List.mem_filter.mp otherListed
          have keys := within item.1 entry.1 other.1 (scrapes entry inside.1)
            (scrapes other otherInside.1) same.symm (by simpa using inside.2)
          exact List.inj_on_of_nodup_map (selectQueues item.2.queuePrefix samples).nodup inside.1
            otherInside.1 keys
        · exact (selectQueues item.2.queuePrefix samples).nodup.of_map _ |>.filter _
  · have distinct := List.pairwise_map.mp configs.nodup
    refine List.Pairwise.imp_of_mem ?_ distinct
    intro item other member otherMember apart name inside otherInside
    have first := List.mem_filter.mp inside
    have second := List.mem_filter.mp otherInside
    obtain ⟨key, scrapes, named⟩ := scraped item member name first.1
    obtain ⟨otherKey, otherScrapes, otherNamed⟩ := scraped other otherMember name second.1
    exact apart (across item.1 other.1 key otherKey scrapes otherScrapes
      (otherNamed.trans named.symm) (by rw [named]; simpa using first.2))

/-- The console announces each queue once for all counts of the broker's queues exactly when its
scrapes list each watched name once. -/
theorem announcesOnce_iff (discogsPrefix musicbrainzPrefix : String) (answers : Answers) :
    AlwaysOnce (pipelineConfigs discogsPrefix musicbrainzPrefix) answers ↔
      NamesOnce (pipelineConfigs discogsPrefix musicbrainzPrefix) answers := by
  constructor
  · intro always
    exact ⟨scrapedNames_nodup _ answers _ (deadLetter_within _ answers always)
      (deadLetter_across _ answers always),
      scrapedNames_nodup _ answers _ (work_within _ answers always)
        (work_across _ answers always)⟩
  · intro once earlier poll same
    apply announcesOnce_of_namesOnce
    unfold NamesOnce
    rw [scrapedNames_same _ _ poll same]
    exact once

/-- A scrape that is in the order of its names keeps its order. -/
theorem getQueueInfo_sorted (tracker : RateTracker) (samples : Samples) (now : Seconds)
    (sorted : samples.items.Pairwise fun first second => first.1.2 ≤ second.1.2) :
    (getQueueInfo tracker (some samples) now).2 =
      some (samples.items.map (queueInfoOf (tracker.update samples now).2)) := by
  unfold getQueueInfo
  dsimp only
  rw [List.mergeSort_of_pairwise]
  simpa using sorted

/-- Two virtual hosts hold the same dead letter queue, each with a number of messages. -/
def twinQueues (first second : ℤ) : Answers where
  timestamp := 0
  scrapedAt := fun _ => 0
  tracker := fun _ => {}
  broker := fun pipelineId => if pipelineId = "discogs" then some
    { items := [(("/", "discogs-graphinator-artists.dlq"), { messages := first }),
        (("other", "discogs-graphinator-artists.dlq"), { messages := second })]
      nodup := by
        show [("/", "discogs-graphinator-artists.dlq"),
          ("other", "discogs-graphinator-artists.dlq")].Nodup
        decide }
    else none
  health := fun _ _ => .failed
  probe := fun _ => "healthy"
  postgresql := "healthy"
  neo4j := none

/-- The entries are read in the order of the broker. -/
theorem twinQueues_read (first second : ℤ) : readPipeline (twinQueues first second) =
    fun pipelineId config => collectPipeline
      (config.services.map fun name => ⟨name, "unknown", none⟩)
      (((twinQueues first second).broker pipelineId).map fun samples =>
        (selectQueues config.queuePrefix samples).items.map (queueInfoOf
          (({} : RateTracker).update (selectQueues config.queuePrefix samples) 0).2)) := by
  funext pipelineId config
  unfold readPipeline
  congr 1
  cases held : (twinQueues first second).broker pipelineId with
  | none => rfl
  | some samples =>
      rw [Option.map_some, Option.map_some, getQueueInfo_sorted]
      · rfl
      · have names : ∀ entry ∈ samples.items,
            entry.1.2 = "discogs-graphinator-artists.dlq" := by
          unfold twinQueues at held
          dsimp only at held
          split at held
          · rw [Option.some.injEq] at held
            rw [← held]
            simp
          · simp at held
        apply List.pairwise_of_forall_mem_list
        intro entry member other otherMember
        have same := (names entry (List.mem_of_mem_filter member)).trans
          (names other (List.mem_of_mem_filter otherMember)).symm
        exact same ▸ String.le_refl _

/-- A dead letter queue in two virtual hosts grows twice in one reading. -/
theorem announcesOnce_fails : ¬ ∀ discogsPrefix musicbrainzPrefix earlier answers,
    AnnouncesOnce (detectorConfig (pipelineConfigs discogsPrefix musicbrainzPrefix))
      (polledDetector (pipelineConfigs discogsPrefix musicbrainzPrefix) earlier)
      (collectAllMetrics (pipelineConfigs discogsPrefix musicbrainzPrefix) answers) := by
  intro always
  have once := (always "discogs" "musicbrainz" [twinQueues 0 0] (twinQueues 1 2)).deadLetters
    "discogs-graphinator-artists.dlq"
  unfold polledDetector at once
  simp only [List.map_cons, List.map_nil, collectAllMetrics, twinQueues_read] at once
  revert once
  decide +kernel

end OperationsConsole
