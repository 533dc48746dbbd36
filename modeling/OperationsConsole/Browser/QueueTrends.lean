/-
This file states which samples the trend of a queue holds after a reading.
A property of every history survives a reading when every recorded sample keeps it.
-/

import OperationsConsole.Browser.LiveData
import OperationsConsole.Library.SlidingWindow

namespace OperationsConsole.Browser

open Library
open Library.SlidingWindow (shift record mem_record record_ne_nil)

/-- Every kept history of a queue has a property. -/
def HistoryHas (property : List (Sent Sample) → Prop) (history : History) : Prop :=
  ∀ name samples, history.get? name = some samples → property samples

/-- Every sample of every history was read in one session. -/
def HistoryFrom (period : Nat) : History → Prop :=
  HistoryHas fun samples => ∀ sample ∈ samples, sample.period = period

def Sent.time (sample : Sent Sample) : Seconds := sample.value.time

section Window

variable (samples : List (Sent Sample))

theorem shiftBefore_eq (start : Seconds) :
    shiftBefore start samples = shift Sent.time start samples := by
  induction samples with
  | nil => rfl
  | cons first rest ih =>
      cases rest with
      | nil => rfl
      | cons second rest =>
          unfold shiftBefore shift
          rw [ih]
          rfl

theorem recordSample_eq (sample : Sent Sample) :
    recordSample samples sample = record Sent.time trendSeconds gapSeconds samples sample := by
  unfold recordSample record
  simp only [shiftBefore_eq]
  cases samples.getLast? with
  | none => rfl
  | some last => exact if_congr Iff.rfl rfl (if_congr Iff.rfl rfl (if_congr Iff.rfl rfl rfl))

/-- A recorded history holds old samples and the new one. -/
theorem mem_recordSample (added sample : Sent Sample)
    (member : sample ∈ recordSample samples added) : sample ∈ samples ∨ sample = added := by
  rw [recordSample_eq] at member
  exact mem_record Sent.time trendSeconds gapSeconds samples added sample member

theorem recordSample_ne_nil (added : Sent Sample) : recordSample samples added ≠ [] := by
  rw [recordSample_eq]
  exact record_ne_nil Sent.time trendSeconds gapSeconds samples added

end Window

variable (property : List (Sent Sample) → Prop)

theorem historyHas_empty : HistoryHas property Dict.empty := by
  intro name samples found
  simp at found

theorem historyHas_erase (history : History) (name : String)
    (before : HistoryHas property history) : HistoryHas property (history.erase name) := by
  intro other samples found
  exact before other samples (Dict.get?_of_erase _ _ _ _ found).2

/-- A pipeline of a reading keeps a property that every recorded sample keeps. -/
theorem updateQueues_has (pipeline : TopologyPipeline) (reading : Sent PipelineMetrics)
    (time : Seconds) (history : History) (before : HistoryHas property history)
    (kept : ∀ samples queue, samples = [] ∨ property samples →
      property (recordSample samples ⟨reading.period, time, queue⟩)) :
    HistoryHas property (updateQueues pipeline reading time history) := by
  unfold updateQueues
  apply List.foldlRecOn
  · exact before
  · intro later has name _
    split
    · exact historyHas_erase property later name has
    · split
      · intro other samples found
        rcases Dict.get?_of_set _ _ _ _ _ found with ⟨_, new⟩ | ⟨_, old⟩
        · rw [new]
          apply kept
          cases stored : later.get? name with
          | none => exact .inl rfl
          | some known => exact .inr (has name known stored)
        · exact has other samples old
      · exact historyHas_erase property later name has

/-- A reading keeps a property that every recorded sample keeps. -/
theorem updatePipelines_has (topology : Topology) (reading : Sent SystemMetrics)
    (history : History) (before : HistoryHas property history)
    (kept : ∀ samples time queue, samples = [] ∨ property samples →
      property (recordSample samples ⟨reading.period, time, queue⟩)) :
    HistoryHas property (updatePipelines topology reading history) := by
  unfold updatePipelines
  apply List.foldlRecOn
  · exact before
  · intro later has item _
    split
    · exact has
    · exact updateQueues_has property _ _ _ later has fun samples queue => kept samples _ queue

/-- A reading keeps the histories in its own session. -/
theorem updatePipelines_period (period : Nat) (topology : Topology) (reading : Sent SystemMetrics)
    (history : History) (before : HistoryFrom period history) (same : reading.period = period) :
    HistoryFrom period (updatePipelines topology reading history) := by
  apply updatePipelines_has _ _ _ _ before
  intro samples time queue known sample member
  rcases mem_recordSample _ _ _ member with old | new
  · rcases known with empty | known
    · simp [empty] at old
    · exact known sample old
  · rw [new]
    exact same

/-- Histories with samples of two sessions are no histories at all. -/
theorem history_eq_empty (first second : Nat) (history : History)
    (recorded : HistoryHas (fun samples => samples ≠ []) history)
    (before : HistoryFrom first history) (later : HistoryFrom second history)
    (different : first ≠ second) : history = Dict.empty := by
  apply Dict.eq_empty_of_get?
  intro name
  cases stored : history.get? name with
  | none => rfl
  | some samples =>
      obtain ⟨sample, member⟩ := List.exists_mem_of_ne_nil _ (recorded name samples stored)
      have equal := (before name samples stored sample member).symm.trans
        (later name samples stored sample member)
      exact absurd equal different

end OperationsConsole.Browser
