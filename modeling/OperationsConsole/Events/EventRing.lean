/-
This file relates the ring of the detector to the events that its run produced.
Only the recording of events changes the ring and the next number.
-/

import OperationsConsole.Events.MarkerWait
import OperationsConsole.Library.Watermark

namespace OperationsConsole

open Library

/-- The feed of a detector is its ring with the number of its next event. -/
def Detector.feed (state : Detector) : List Event × Nat := (state.ring, state.nextId)

section Frame

variable (config : DetectorConfig) (state : Detector)

theorem brokerOf_feed (pipelineId : String) (pipeline : PipelineMetrics) :
    (brokerOf config pipelineId pipeline state).1.feed = state.feed := by
  unfold brokerOf
  dsimp only
  split
  · dsimp only
    rw [loop_frame _ Detector.feed]
    · rfl
    · intro other queue _
      obtain ⟨depth, same⟩ := deadLetterStep_state config pipelineId other queue
      rw [same]
      rfl
  · rfl

theorem pipelineStep_feed (now : Seconds) (item : String × PipelineMetrics) :
    (pipelineStep config now state item).1.feed = state.feed := by
  have before : (beforeWorkQueues config state item).1.feed = state.feed := by
    unfold beforeWorkQueues servicesOf
    dsimp only
    rw [brokerOf_feed, loop_frame _ Detector.feed]
    intro other service _
    obtain ⟨services, same⟩ := serviceStep_state item.1 other service
    rw [same]
    rfl
  unfold pipelineStep workQueuesOf
  dsimp only
  rw [← before]
  split
  · dsimp only
    rw [loop_frame _ Detector.feed]
    intro other queue _
    obtain ⟨seen, zero, waiting, conditions, same⟩ :=
      workQueueStep_state config item.1 item.2 now other queue
    rw [same]
    rfl
  · rfl

/-- Detecting the transitions of a reading does not touch the feed. -/
theorem detect_feed (metrics : SystemMetrics) :
    (detect config state metrics).1.feed = state.feed := by
  unfold detect datastoresOf platformOf
  dsimp only
  rw [loop_frame _ Detector.feed, loop_frame _ Detector.feed, loop_frame _ Detector.feed]
  · intro other item _
    exact pipelineStep_feed config other metrics.timestamp item
  · intro other service _
    obtain ⟨platform, same⟩ := platformStep_state other service
    rw [same]
    rfl
  · intro other database _
    obtain ⟨datastores, same⟩ := datastoreStep_state other database
    rw [same]
    rfl

end Frame

/-- The last items of a list are those that a ring of a capacity keeps. -/
def lastOf {α : Type} (capacity : Nat) (items : List α) : List α :=
  items.drop (items.length - capacity)

/-- A bounded append keeps the last items of the appended list. -/
theorem appendEvent_lastOf (capacity : Nat) (items : List Event) (event : Event) :
    appendEvent capacity (lastOf capacity items) event = lastOf capacity (items ++ [event]) := by
  unfold appendEvent lastOf
  dsimp only
  by_cases short : items.length ≤ capacity
  · have whole : items.length - capacity = 0 := by omega
    rw [whole, List.drop_zero]
  · have split : items.drop (items.length - capacity) ++ [event] =
        (items ++ [event]).drop (items.length - capacity) := by
      rw [List.drop_append_of_le_length (by omega)]
    rw [split, List.drop_drop, List.length_drop, List.length_append, List.length_singleton]
    congr 1
    omega

/-- Recording the transitions of a reading numbers them and keeps the last events. -/
theorem record_feed (config : DetectorConfig) (stamp : Seconds) (found : List Found)
    (state : Detector) (produced : List Event)
    (ring : state.ring = lastOf config.capacity produced)
    (next : state.nextId = produced.length + 1) :
    let recorded := loop (recordStep config stamp) state found
    recorded.1.ring = lastOf config.capacity (produced ++ recorded.2) ∧
      recorded.1.nextId = (produced ++ recorded.2).length + 1 ∧
      recorded.2.map Event.id = List.range' (produced.length + 1) recorded.2.length := by
  dsimp only
  induction found generalizing state produced with
  | nil => simpa [loop] using ⟨ring, next⟩
  | cons first rest ih =>
      let event : Event := ⟨state.nextId, stamp, first.level, first.kind, first.subject,
        first.message⟩
      have longer : (recordStep config stamp state first).1.ring =
          lastOf config.capacity (produced ++ [event]) := by
        change appendEvent config.capacity state.ring event = _
        rw [ring, appendEvent_lastOf]
      have later : (recordStep config stamp state first).1.nextId =
          (produced ++ [event]).length + 1 := by
        change state.nextId + 1 = _
        rw [next, List.length_append, List.length_singleton]
      obtain ⟨ringAfter, nextAfter, numbers⟩ := ih _ (produced ++ [event]) longer later
      rw [List.append_assoc, List.singleton_append] at ringAfter nextAfter
      refine ⟨ringAfter, nextAfter, ?_⟩
      simp only [loop, List.map_cons, List.length_cons, List.range'_succ]
      rw [numbers, List.length_append, List.length_singleton]
      exact congrArg (· :: _) next

/-- The ring of a run holds the last events that the run produced, with consecutive numbers. -/
structure RingHolds (config : DetectorConfig) (history : List SystemMetrics) : Prop where
  ring : (detectorAfter config history).ring =
    lastOf config.capacity (producedEvents config history)
  next : (detectorAfter config history).nextId = (producedEvents config history).length + 1
  numbers : (producedEvents config history).map Event.id =
    List.range' 1 (producedEvents config history).length

theorem detectorAfter_ring (config : DetectorConfig) (history : List SystemMetrics) :
    RingHolds config history := by
  induction history with
  | nil => exact ⟨List.drop_nil.symm, rfl, rfl⟩
  | cons metrics earlier ih =>
      have kept := detect_feed config (detectorAfter config earlier) metrics
      unfold Detector.feed at kept
      rw [Prod.mk.injEq] at kept
      have recorded := record_feed config metrics.timestamp
        (detect config (detectorAfter config earlier) metrics).2
        (detect config (detectorAfter config earlier) metrics).1
        (producedEvents config earlier) (kept.1.trans ih.ring) (kept.2.trans ih.next)
      refine ⟨recorded.1, recorded.2.1, ?_⟩
      change (producedEvents config earlier ++ _).map Event.id = _
      rw [List.map_append, ih.numbers]
      change List.range' 1 _ ++ List.map Event.id (loop _ _ _).2 = List.range' 1
        (producedEvents config earlier ++ (loop _ _ _).2).length
      rw [recorded.2.2, List.length_append, ← List.range'_append_1, Nat.add_comm 1]

section Produced

variable (config : DetectorConfig) (history : List SystemMetrics)

/-- The produced events have increasing numbers. -/
theorem producedEvents_increasing :
    (producedEvents config history).Pairwise fun first second => first.id < second.id := by
  have ordered : ((producedEvents config history).map Event.id).Pairwise (· < ·) := by
    rw [(detectorAfter_ring config history).numbers]
    exact List.pairwise_lt_range'
  exact List.pairwise_map.mp ordered

theorem producedEvents_positive (event : Event) (member : event ∈ producedEvents config history) :
    0 < event.id := by
  have number : event.id ∈ (producedEvents config history).map Event.id :=
    List.mem_map.mpr ⟨event, member, rfl⟩
  rw [(detectorAfter_ring config history).numbers, List.mem_range'_1] at number
  omega

theorem producedEvents_le (event : Event) (member : event ∈ producedEvents config history) :
    event.id ≤ (producedEvents config history).length := by
  have number : event.id ∈ (producedEvents config history).map Event.id :=
    List.mem_map.mpr ⟨event, member, rfl⟩
  rw [(detectorAfter_ring config history).numbers, List.mem_range'_1] at number
  omega

/-- A longer run produced the events of its older part first. -/
theorem producedEvents_prefix (older : List SystemMetrics) (suffix : older <:+ history) :
    producedEvents config older <+: producedEvents config history := by
  induction history with
  | nil =>
      have empty := List.suffix_nil.mp suffix
      subst empty
      exact List.prefix_rfl
  | cons metrics earlier ih =>
      rw [List.suffix_cons_iff] at suffix
      rcases suffix with whole | inside
      · subst whole
        exact List.prefix_rfl
      · exact (ih inside).trans (List.prefix_append _ _)

/-- An event of a longer run is an event of its older part, or it has a larger number. -/
theorem producedEvents_later (older : List SystemMetrics) (suffix : older <:+ history)
    (event : Event) (member : event ∈ producedEvents config history) :
    event ∈ producedEvents config older ∨ (producedEvents config older).length < event.id := by
  obtain ⟨rest, split⟩ := producedEvents_prefix config history older suffix
  have numbers := (detectorAfter_ring config history).numbers
  rw [← split, List.map_append, List.length_append, ← List.range'_append_1,
    (detectorAfter_ring config older).numbers] at numbers
  rw [← split, List.mem_append] at member
  rcases member with old | new
  · exact .inl old
  · have number : event.id ∈ rest.map Event.id := List.mem_map.mpr ⟨event, new, rfl⟩
    rw [List.append_cancel_left numbers, List.mem_range'_1] at number
    exact .inr (by omega)

/-- The mark of a ring with room is the number of the events that the run produced. -/
theorem markOf_ring (room : 0 < config.capacity) :
    markOf Event.id (lastOf config.capacity (producedEvents config history)) =
      (producedEvents config history).length := by
  apply markOf_eq
  · intro event member
    exact producedEvents_le config history event (List.mem_of_mem_drop member)
  · intro positive
    have numbers := (detectorAfter_ring config history).numbers
    have present : producedEvents config history ≠ [] := List.length_pos_iff.mp positive
    refine ⟨(producedEvents config history).getLast present, ?_, ?_⟩
    · have kept : lastOf config.capacity (producedEvents config history) ≠ [] := by
        unfold lastOf
        rw [ne_eq, List.drop_eq_nil_iff]
        omega
      have same := List.getLast_drop kept
      rw [← same]
      exact List.getLast_mem kept
    · have last := congrArg List.getLast? numbers
      rw [List.getLast?_map, List.getLast?_eq_some_getLast present, List.getLast?_range'] at last
      rw [if_neg (by omega)] at last
      have number := Option.some.inj last
      omega

end Produced

end OperationsConsole
