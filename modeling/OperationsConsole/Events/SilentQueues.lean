/-
This file studies readings that make no news of a queue whose state is remembered.
A silent dead letter queue did not grow, and a silent work queue kept its kind.
-/

import OperationsConsole.Events.Repetition

namespace OperationsConsole

open Library

theorem newsOf_single (family : List Char) (name : String) (found : Found)
    (kind : family <+: found.kind.toList) (subject : found.subject = name) :
    [found].countP (newsOf family name) = 1 := by
  simp [newsOf, kind, subject]

/-- A depth that grew is news. -/
theorem depthFound_grew (depth : ℤ) (queue : QueueInfo) (grew : depth < queue.messages) :
    (depthFound (some depth) queue).countP (newsOf dlqFamily queue.name) = 1 := by
  have family : dlqFamily <+: "dlq-grew".toList := by decide
  unfold depthFound
  dsimp only
  rw [if_neg (by omega), if_pos grew]
  exact newsOf_single _ _ _ family rfl

/-- A remembered kind that changes is news. -/
theorem announcement_changed (kind : Option ConditionKind) (condition : Option QueueCondition)
    (queue : QueueInfo) (changes : rememberedKind condition ≠ kind) :
    (announcement (some kind) condition queue).countP (newsOf queueFamily queue.name) = 1 := by
  have fault : ∀ kind, queueFamily <+: ("queue-" ++ kindText kind).toList := by
    intro kind
    cases kind with
    | none => decide
    | some kind => cases kind <;> decide
  have recovered : queueFamily <+: "queue-recovered".toList := by decide
  unfold announcement
  dsimp only
  rw [if_neg (by simp [Ne.symm changes])]
  split
  · exact newsOf_single _ _ _ (fault _) rfl
  · exact newsOf_single _ _ _ recovered rfl

section Loops

variable (config : DetectorConfig) (pipelineId : String) (pipeline : PipelineMetrics)
variable (now : Seconds) (name : String)

/-- The depth that the entries of a queue leave. -/
def lastDepth (name : String) (queues : List QueueInfo) (start : Option ℤ) : Option ℤ :=
  queues.foldl (fun depth queue => if queue.name = name then some queue.messages else depth) start

/-- A queue without an entry keeps its depth, and its last entry leaves one depth from any start. -/
theorem lastDepth_cases (queues : List QueueInfo) :
    ((∀ queue ∈ queues, queue.name ≠ name) ∧ ∀ start, lastDepth name queues start = start) ∨
      ∃ queue ∈ queues, queue.name = name ∧
        ∀ start, lastDepth name queues start = some queue.messages := by
  unfold lastDepth
  induction queues with
  | nil => exact .inl ⟨by simp, fun start => rfl⟩
  | cons queue rest ih =>
      simp only [List.foldl_cons]
      rcases ih with ⟨absent, kept⟩ | ⟨last, member, named, depth⟩
      · by_cases own : queue.name = name
        · refine .inr ⟨queue, List.mem_cons_self, own, ?_⟩
          intro start
          rw [kept, if_pos own]
        · refine .inl ⟨?_, ?_⟩
          · intro other member
            rcases List.mem_cons.mp member with same | inside
            · rw [same]
              exact own
            · exact absent other inside
          · intro start
            rw [kept, if_neg own]
      · exact .inr ⟨last, List.mem_cons_of_mem _ member, named, fun start => depth _⟩

theorem deadLetterLoop_depth (watched : name ∈ config.deadLetterQueues) (state : Detector)
    (queues : List QueueInfo) :
    ((loop (deadLetterStep config pipelineId) state queues).1.pipelineMemory
        pipelineId).dlqDepth name =
      lastDepth name queues ((state.pipelineMemory pipelineId).dlqDepth name) := by
  apply loop_view (deadLetterStep config pipelineId)
    (fun state => (state.pipelineMemory pipelineId).dlqDepth name)
  intro state queue _
  rw [(deadLetterStep_keyed config pipelineId).memory]
  by_cases own : queue.name = name
  · simp [own, watched]
  · simp [own, Ne.symm own]

/-- Without news of a dead letter queue its depths never grow. -/
theorem deadLetterLoop_silent (watched : name ∈ config.deadLetterQueues) (queues : List QueueInfo)
    (state : Detector) (depth : ℤ)
    (known : (state.pipelineMemory pipelineId).dlqDepth name = some depth)
    (silent : (loop (deadLetterStep config pipelineId) state queues).2.flatten.countP
      (newsOf dlqFamily name) = 0) :
    ∃ last, ((loop (deadLetterStep config pipelineId) state queues).1.pipelineMemory
        pipelineId).dlqDepth name = some last ∧ last ≤ depth ∧
      ∀ queue ∈ queues, queue.name = name → last ≤ queue.messages ∧ queue.messages ≤ depth := by
  induction queues generalizing state depth with
  | nil => exact ⟨depth, known, le_refl _, by simp⟩
  | cons queue rest ih =>
      simp only [loop, List.flatten_cons, List.countP_append, Nat.add_eq_zero_iff] at silent ⊢
      have keyed := deadLetterStep_keyed config pipelineId
      by_cases own : queue.name = name
      · have kept : queue.messages ≤ depth := by
          by_contra grew
          have news := silent.1
          rw [deadLetterStep_found, own, if_pos watched, known, ← own,
            depthFound_grew depth queue (by omega)] at news
          simp at news
        have next : ((deadLetterStep config pipelineId state queue).1.pipelineMemory
            pipelineId).dlqDepth name = some queue.messages := by
          rw [keyed.memory]
          simp [own, watched]
        obtain ⟨last, after, bound, others⟩ := ih _ _ next silent.2
        refine ⟨last, after, le_trans bound kept, ?_⟩
        intro other member named
        rcases List.mem_cons.mp member with same | inside
        · rw [same]
          exact ⟨bound, kept⟩
        · exact ⟨(others other inside named).1, le_trans (others other inside named).2 kept⟩
      · have next : ((deadLetterStep config pipelineId state queue).1.pipelineMemory
            pipelineId).dlqDepth name = some depth := by
          rw [keyed.memory, if_neg fun both => own both.2.symm]
          exact known
        obtain ⟨last, after, bound, others⟩ := ih _ _ next silent.2
        refine ⟨last, after, bound, ?_⟩
        intro other member named
        rcases List.mem_cons.mp member with same | inside
        · exact absurd (same ▸ named) own
        · exact others other inside named

/-- Without news of a work queue every entry of it keeps the kind that is remembered. -/
theorem workQueueLoop_silent (watched : name ∈ config.workQueues) (queues : List QueueInfo)
    (state : Detector) (kind : Option ConditionKind)
    (known : (state.memory (pipelineId, name)).condition = some kind)
    (silent : ((loop (workQueueStep config pipelineId pipeline now) state queues).2.map
      QueueOutcome.found).flatten.countP (newsOf queueFamily name) = 0) :
    ∀ queue ∈ queues, queue.name = name → ∃ memory : QueueMemory,
      rememberedKind (memory.conditionAt config.awaitingMarkerSeconds now
        (listedAsAwaiting config pipeline queue) queue) = kind := by
  induction queues generalizing state with
  | nil => simp
  | cons queue rest ih =>
      simp only [loop, List.map_cons, List.flatten_cons, List.countP_append,
        Nat.add_eq_zero_iff] at silent
      intro other member named
      by_cases own : queue.name = name
      · subst own
        rw [workQueueStep_outcome _ _ _ _ _ _ watched] at silent
        have kept : rememberedKind ((state.memory (pipelineId, queue.name)).conditionAt
            config.awaitingMarkerSeconds now (listedAsAwaiting config pipeline queue) queue) =
              kind := by
          by_contra changes
          have news := silent.1
          rw [known, announcement_changed kind _ queue changes] at news
          simp at news
        rcases List.mem_cons.mp member with same | inside
        · rw [same]
          exact ⟨_, kept⟩
        · refine ih _ ?_ silent.2 other inside named
          rw [workQueueStep_memory _ _ _ _ _ _ _ watched, if_pos rfl]
          exact congrArg some kept
      · rcases List.mem_cons.mp member with same | inside
        · exact absurd (same ▸ named) own
        · refine ih _ ?_ silent.2 other inside named
          rw [workQueueStep_memory_other]
          · exact known
          · exact fun equal => own (congrArg Prod.snd equal).symm

/-- A listed work queue is remembered with the kind that one of its entries has. -/
theorem workQueueLoop_listed (watched : name ∈ config.workQueues) (queues : List QueueInfo)
    (state : Detector) (listed : ∃ queue ∈ queues, queue.name = name) :
    ∃ queue ∈ queues, queue.name = name ∧ ∃ memory : QueueMemory,
      ((loop (workQueueStep config pipelineId pipeline now) state queues).1.memory
          (pipelineId, name)).condition =
        some (rememberedKind (memory.conditionAt config.awaitingMarkerSeconds now
          (listedAsAwaiting config pipeline queue) queue)) := by
  induction queues generalizing state with
  | nil => simp at listed
  | cons queue rest ih =>
      simp only [loop]
      by_cases later : ∃ other ∈ rest, other.name = name
      · obtain ⟨last, member, named, memory, kind⟩ := ih _ later
        exact ⟨last, List.mem_cons_of_mem _ member, named, memory, kind⟩
      · obtain ⟨other, member, named⟩ := listed
        rcases List.mem_cons.mp member with same | inside
        · subst same
          refine ⟨other, List.mem_cons_self, named, state.memory (pipelineId, name), ?_⟩
          have kept : ((loop (workQueueStep config pipelineId pipeline now)
              (workQueueStep config pipelineId pipeline now state other).1 rest).1.memory
                (pipelineId, name)) =
              (workQueueStep config pipelineId pipeline now state other).1.memory
                (pipelineId, name) := by
            apply loop_frame (workQueueStep config pipelineId pipeline now)
              (fun state => state.memory (pipelineId, name))
            intro state queue inside
            apply workQueueStep_memory_other
            exact fun equal => later ⟨queue, inside, (congrArg Prod.snd equal).symm⟩
          rw [kept, workQueueStep_memory _ _ _ _ _ _ _ watched, if_pos (by rw [named])]
          rfl
        · exact absurd ⟨other, inside, named⟩ later

end Loops

section Passes

variable (config : DetectorConfig) (pipelineId : String) (pipeline : PipelineMetrics)
variable (now : Seconds) (name : String) (state : Detector)

/-- The pass of a scraped pipeline remembers the last depth of a dead letter queue. -/
theorem pipelineStep_depth (watched : name ∈ config.deadLetterQueues)
    (scraped : pipeline.queuesAvailable = true) :
    ((pipelineStep config now state (pipelineId, pipeline)).1.pipelineMemory
        pipelineId).dlqDepth name =
      lastDepth name pipeline.queues ((state.pipelineMemory pipelineId).dlqDepth name) := by
  have work := (workQueuesOf_rest config now pipelineId pipeline
    (beforeWorkQueues config state (pipelineId, pipeline)).1 pipelineId).2.2
  show ((workQueuesOf config pipelineId pipeline now
    (beforeWorkQueues config state (pipelineId, pipeline)).1).1.pipelineMemory
      pipelineId).dlqDepth name = _
  rw [work]
  unfold beforeWorkQueues
  dsimp only
  rw [brokerOf_eq, if_pos scraped]
  dsimp only
  rw [deadLetterLoop_depth config pipelineId name watched, noteAvailable_pipeline, if_pos rfl]
  dsimp only
  rw [(servicesOf_rest pipelineId state pipeline.services pipelineId).2]

theorem pipelineStep_silent_depths (watched : name ∈ config.deadLetterQueues)
    (scraped : pipeline.queuesAvailable = true) (depth : ℤ)
    (known : (state.pipelineMemory pipelineId).dlqDepth name = some depth)
    (silent : (pipelineStep config now state (pipelineId, pipeline)).2.found.countP
      (newsOf dlqFamily name) = 0) :
    ∃ last, lastDepth name pipeline.queues (some depth) = some last ∧
      ∀ queue ∈ pipeline.queues, queue.name = name →
        last ≤ queue.messages ∧ queue.messages ≤ depth := by
  let noted := noteAvailable pipelineId pipeline.queuesAvailable
    (servicesOf pipelineId pipeline.services state).1
  have start : (noted.pipelineMemory pipelineId).dlqDepth name = some depth := by
    rw [noteAvailable_pipeline, if_pos rfl]
    dsimp only
    rw [(servicesOf_rest pipelineId state pipeline.services pipelineId).2]
    exact known
  have quiet : (loop (deadLetterStep config pipelineId) noted pipeline.queues).2.flatten.countP
      (newsOf dlqFamily name) = 0 := by
    unfold pipelineStep beforeWorkQueues at silent
    dsimp only at silent
    rw [brokerOf_eq, if_pos scraped] at silent
    simp only [List.countP_append, Nat.add_eq_zero_iff] at silent
    exact silent.1.2.2
  obtain ⟨last, after, _, entries⟩ := deadLetterLoop_silent config pipelineId name watched
    pipeline.queues noted depth start quiet
  rw [deadLetterLoop_depth config pipelineId name watched, start] at after
  exact ⟨last, after, entries⟩

theorem pipelineStep_listed_kind (watched : name ∈ config.workQueues)
    (scraped : pipeline.queuesAvailable = true)
    (listed : ∃ queue ∈ pipeline.queues, queue.name = name) :
    ∃ queue ∈ pipeline.queues, queue.name = name ∧ ∃ memory : QueueMemory,
      ((pipelineStep config now state (pipelineId, pipeline)).1.memory
          (pipelineId, name)).condition =
        some (rememberedKind (memory.conditionAt config.awaitingMarkerSeconds now
          (listedAsAwaiting config pipeline queue) queue)) := by
  unfold pipelineStep workQueuesOf
  dsimp only
  rw [if_pos scraped]
  exact workQueueLoop_listed config pipelineId pipeline now name watched pipeline.queues _ listed

theorem pipelineStep_silent_kinds (watched : name ∈ config.workQueues)
    (scraped : pipeline.queuesAvailable = true) (kind : Option ConditionKind)
    (known : (state.memory (pipelineId, name)).condition = some kind)
    (silent : (pipelineStep config now state (pipelineId, pipeline)).2.found.countP
      (newsOf queueFamily name) = 0) :
    ∀ queue ∈ pipeline.queues, queue.name = name → ∃ memory : QueueMemory,
      rememberedKind (memory.conditionAt config.awaitingMarkerSeconds now
        (listedAsAwaiting config pipeline queue) queue) = kind := by
  apply workQueueLoop_silent config pipelineId pipeline now name watched pipeline.queues
    (beforeWorkQueues config state (pipelineId, pipeline)).1
  · rw [beforeWorkQueues_memory]
    exact known
  · unfold pipelineStep workQueuesOf at silent
    dsimp only at silent
    rw [if_pos scraped] at silent
    simp only [List.countP_append, Nat.add_eq_zero_iff] at silent
    exact silent.2

end Passes

section Readings

variable (config : DetectorConfig) (state : Detector) (metrics : SystemMetrics)
variable (pipelineId : String) (pipeline : PipelineMetrics) (name : String)
variable (listed : metrics.pipelines.get? pipelineId = some pipeline)

include listed

/-- A reading leaves the depth of an entry of every dead letter queue that it lists. -/
theorem observe_depth (watched : name ∈ config.deadLetterQueues)
    (scraped : pipeline.queuesAvailable = true)
    (entry : ∃ queue ∈ pipeline.queues, queue.name = name) :
    ∃ queue ∈ pipeline.queues, queue.name = name ∧
      (∀ start, lastDepth name pipeline.queues start = some queue.messages) ∧
      ((observe config state metrics).state.pipelineMemory pipelineId).dlqDepth name =
        some queue.messages := by
  rcases lastDepth_cases name pipeline.queues with ⟨absent, _⟩ | ⟨last, member, named, depth⟩
  · obtain ⟨queue, member, named⟩ := entry
    exact absurd named (absent queue member)
  · refine ⟨last, member, named, depth, ?_⟩
    rw [(own_pass config state metrics pipelineId pipeline listed).2,
      pipelineStep_depth config pipelineId pipeline _ name state watched scraped, depth]

/-- A reading leaves the kind of an entry of every work queue that it lists. -/
theorem observe_kind (watched : name ∈ config.workQueues)
    (scraped : pipeline.queuesAvailable = true)
    (entry : ∃ queue ∈ pipeline.queues, queue.name = name) :
    ∃ queue ∈ pipeline.queues, queue.name = name ∧ ∃ memory : QueueMemory,
      ((observe config state metrics).state.memory (pipelineId, name)).condition =
        some (rememberedKind (memory.conditionAt config.awaitingMarkerSeconds metrics.timestamp
          (listedAsAwaiting config pipeline queue) queue)) := by
  obtain ⟨last, member, named, memory, kind⟩ := pipelineStep_listed_kind config pipelineId pipeline
    metrics.timestamp name state watched scraped entry
  refine ⟨last, member, named, memory, ?_⟩
  rw [← kind]
  have own := (own_pass config state metrics pipelineId pipeline listed).2
  exact congrArg (fun memory => (memory.queues name).condition) own

/-- The news of two pipelines are both events of the reading. -/
theorem observe_both_news (other : String) (second : PipelineMetrics) (distinct : pipelineId ≠ other)
    (otherListed : metrics.pipelines.get? other = some second) (news : Found → Bool) :
    (pipelineStep config metrics.timestamp state (pipelineId, pipeline)).2.found.countP news +
        (pipelineStep config metrics.timestamp state (other, second)).2.found.countP news ≤
      ((observe config state metrics).events.map Event.found).countP news := by
  obtain ⟨⟨before, rest, outcomes, _⟩, _⟩ := own_pass config state metrics pipelineId pipeline listed
  obtain ⟨⟨early, late, again, _⟩, _⟩ := own_pass config state metrics other second otherListed
  have member : (pipelineStep config metrics.timestamp state (other, second)).2 ∈
      before ++ (pipelineStep config metrics.timestamp state (pipelineId, pipeline)).2 :: rest := by
    rw [← outcomes, again]
    simp
  have apart : (pipelineStep config metrics.timestamp state (other, second)).2 ≠
      (pipelineStep config metrics.timestamp state (pipelineId, pipeline)).2 := by
    intro same
    have ids := congrArg PipelineOutcome.id same
    rw [pipelineStep_id, pipelineStep_id] at ids
    exact distinct ids.symm
  have counted : ∀ outcomes : List PipelineOutcome,
      (pipelineStep config metrics.timestamp state (other, second)).2 ∈ outcomes →
        (pipelineStep config metrics.timestamp state (other, second)).2.found.countP news ≤
          (outcomes.map PipelineOutcome.found).flatten.countP news := by
    intro outcomes inside
    apply List.Sublist.countP_le
    exact List.sublist_flatten_of_mem (List.mem_map_of_mem inside)
  rw [observe_events_found]
  unfold detect
  dsimp only
  rw [← pipelineOutcomes, outcomes]
  simp only [List.map_append, List.map_cons, List.flatten_append, List.flatten_cons,
    List.countP_append]
  rcases List.mem_append.mp member with inside | inside
  · have bound := counted before inside
    omega
  · rcases List.mem_cons.mp inside with same | later
    · exact absurd same apart
    · have bound := counted rest later
      omega

end Readings

/-- A reading without events has no transition of any of its pipelines. -/
theorem quiet_pass (config : DetectorConfig) (state : Detector) (metrics : SystemMetrics)
    (pipelineId : String) (pipeline : PipelineMetrics)
    (listed : metrics.pipelines.get? pipelineId = some pipeline)
    (quiet : (observe config state metrics).events = []) :
    (pipelineStep config metrics.timestamp state (pipelineId, pipeline)).2.found = [] := by
  obtain ⟨⟨before, rest, outcomes, _⟩, _⟩ := own_pass config state metrics pipelineId pipeline
    listed
  have found := observe_events_found config state metrics
  rw [quiet, List.map_nil] at found
  unfold detect at found
  dsimp only at found
  rw [← pipelineOutcomes, outcomes] at found
  have parts := List.append_eq_nil_iff.mp found.symm
  have pipelines := (List.append_eq_nil_iff.mp parts.1).1
  rw [List.flatten_eq_nil_iff] at pipelines
  apply pipelines
  simp

end OperationsConsole
