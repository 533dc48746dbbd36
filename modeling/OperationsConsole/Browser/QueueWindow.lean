/-
This file proves that the kept samples of a queue answer like its whole history.
The whole history has every accepted sample since the last gap, and the page keeps a window of it.
-/

import OperationsConsole.Browser.QueueHealth
import OperationsConsole.Browser.QueueTrends

namespace OperationsConsole.Browser

open Library.SlidingWindow

/-- These samples are kept after the page recorded the inputs in their order. -/
def keptSamples (inputs : List (Sent Sample)) : List (Sent Sample) :=
  inputs.foldl recordSample []

/-- These are the accepted samples since the last gap, without the ones that were replaced. -/
def acceptedSamples (inputs : List (Sent Sample)) : List (Sent Sample) :=
  inputs.foldl (accept Sent.time gapSeconds) []

section Whole

variable (samples : List (Sent Sample))

/-- The trend window of a history ends at its newest sample. -/
def windowStart : Option Seconds := (latest samples).map fun last => last.time - trendSeconds

/-- The change against the newest sample at or before the start of the window, or the oldest. -/
def wholeDepthChange : ℤ :=
  match latest samples, (windowStart samples).bind fun start => baseline Sent.time start samples with
  | some last, some base => last.reading.messages - base.value.reading.messages
  | _, _ => 0

/-- The mean of the computed rates of the samples at or after the start of the window. -/
def wholeMeanAckRate : Option ℚ :=
  (windowStart samples).bind fun start =>
    let rates := (samples.filter fun sample => start ≤ sample.time).filterMap fun sample =>
      sample.value.reading.ackRate
    if rates = [] then none else some (rates.sum / rates.length)

def wholeLagSeconds : Option (WithTop ℚ) :=
  (latest samples).bind fun last =>
    if last.reading.messages = 0 then some 0
    else (wholeMeanAckRate samples).map fun ack =>
      if 0 < ack then ((last.reading.messages / ack : ℚ) : WithTop ℚ) else ⊤

end Whole

section Connection

variable (samples : List (Sent Sample))

theorem trendSeconds_pos : 0 < trendSeconds := by
  decide +kernel

/-- The kept samples are the window of the accepted ones. -/
theorem keptSamples_eq (inputs : List (Sent Sample)) :
    keptSamples inputs = window Sent.time trendSeconds (acceptedSamples inputs) := by
  unfold keptSamples acceptedSamples
  rw [funext₂ recordSample_eq]
  exact foldl_record Sent.time trendSeconds gapSeconds trendSeconds_pos inputs

/-- The window ends at the newest sample of the history. -/
theorem latest_window : latest (window Sent.time trendSeconds samples) = latest samples := by
  rcases List.eq_nil_or_concat samples with empty | ⟨earlier, last, split⟩
  · rw [empty]
    rfl
  · have inside : last.time - trendSeconds < last.time := sub_lt_self _ trendSeconds_pos
    rw [split, List.concat_eq_append, window_concat, shift_concat Sent.time _ _ last inside]
    unfold latest
    rw [List.getLast?_concat, List.getLast?_concat]

/-- The window is the history shifted to the start of the window. -/
theorem window_eq_shift (start : Seconds) (known : windowStart samples = some start) :
    window Sent.time trendSeconds samples = shift Sent.time start samples := by
  unfold windowStart latest at known
  unfold window
  cases newest : samples.getLast? with
  | none =>
      rw [newest] at known
      cases known
  | some last =>
      rw [newest] at known
      rw [← Option.some.inj known]
      rfl

theorem windowStart_of_latest (last : Sample) (newest : latest samples = some last) :
    windowStart samples = some (last.time - trendSeconds) := by
  rw [windowStart, newest]
  rfl

/-- A history without a newest sample is empty. -/
theorem eq_nil_of_latest (missing : latest samples = none) : samples = [] :=
  List.getLast?_eq_none_iff.mp (Option.map_eq_none_iff.mp missing)

variable (chronological : Chronological Sent.time samples)

include chronological

theorem depthChange_window :
    depthChange (window Sent.time trendSeconds samples) = wholeDepthChange samples := by
  cases newest : latest samples with
  | none =>
      rw [eq_nil_of_latest samples newest]
      rfl
  | some last =>
      have start := windowStart_of_latest samples last newest
      have base := head?_shift Sent.time (last.time - trendSeconds) samples chronological
      rw [← window_eq_shift samples _ start] at base
      unfold depthChange wholeDepthChange
      rw [latest_window, newest, start, Option.bind_some, ← base]
      cases window Sent.time trendSeconds samples <;> rfl

theorem meanAckRate_window :
    meanAckRate (window Sent.time trendSeconds samples) = wholeMeanAckRate samples := by
  cases newest : latest samples with
  | none =>
      rw [eq_nil_of_latest samples newest]
      rfl
  | some last =>
      have start := windowStart_of_latest samples last newest
      have inside := filter_shift Sent.time (last.time - trendSeconds) samples chronological
      rw [← window_eq_shift samples _ start] at inside
      have rates : (window Sent.time trendSeconds samples).filterMap (fun sample =>
          if last.time - sample.value.time ≤ trendSeconds then sample.value.reading.ackRate
            else none) =
            (samples.filter fun sample => last.time - trendSeconds ≤ sample.time).filterMap
              fun sample => sample.value.reading.ackRate := by
        rw [← inside, List.filterMap_filter]
        apply List.filterMap_congr
        intro sample _
        exact if_congr (by rw [decide_eq_true_iff]; exact sub_le_comm) rfl rfl
      unfold meanAckRate wholeMeanAckRate
      rw [latest_window, newest, start, Option.bind_some, Option.bind_some]
      dsimp only
      rw [rates]
      exact if_congr List.isEmpty_iff rfl rfl

theorem lagSeconds_window :
    lagSeconds (window Sent.time trendSeconds samples) = wholeLagSeconds samples := by
  unfold lagSeconds wholeLagSeconds
  rw [latest_window, meanAckRate_window samples chronological]

theorem coverage_window :
    coverage (window Sent.time trendSeconds samples) = coverage samples := by
  have same : ∀ samples, coverage samples = covered Sent.time trendSeconds samples := by
    intro samples
    unfold coverage covered latest
    cases samples with
    | nil => rfl
    | cons first rest =>
        rw [List.head?_cons]
        cases (first :: rest).getLast? <;> rfl
  rw [same, same]
  exact covered_window Sent.time trendSeconds trendSeconds_pos samples chronological

end Connection

/-- The kept samples of a run are a window of the accepted ones, which answers as they do. -/
structure RefinesHistory (inputs : List (Sent Sample)) : Prop where
  newer : (keptSamples inputs).Pairwise fun a b => a.time < b.time
  near : (keptSamples inputs).IsChain fun a b => b.time - a.time ≤ gapSeconds
  baseline : ∀ start, windowStart (keptSamples inputs) = some start →
    ((keptSamples inputs).filter fun sample => sample.time ≤ start).length ≤ 1
  late : ∀ last sample, (keptSamples inputs).getLast? = some last → sample.time < last.time →
    keptSamples (inputs ++ [sample]) = keptSamples inputs
  replaced : ∀ last sample, (keptSamples inputs).getLast? = some last →
    sample.time = last.time →
      keptSamples (inputs ++ [sample]) = (keptSamples inputs).dropLast ++ [sample]
  depthChange : depthChange (keptSamples inputs) = wholeDepthChange (acceptedSamples inputs)
  meanAckRate : meanAckRate (keptSamples inputs) = wholeMeanAckRate (acceptedSamples inputs)
  lagSeconds : lagSeconds (keptSamples inputs) = wholeLagSeconds (acceptedSamples inputs)
  coverage : coverage (keptSamples inputs) = coverage (acceptedSamples inputs)

/-- The window of every run refines its whole history. -/
theorem keptSamples_refines (inputs : List (Sent Sample)) : RefinesHistory inputs := by
  obtain ⟨chronological, unbroken⟩ := foldl_accept_ordered Sent.time gapSeconds inputs
  have kept := keptSamples_eq inputs
  have part := window_suffix Sent.time trendSeconds (acceptedSamples inputs)
  have next : ∀ sample,
      keptSamples (inputs ++ [sample]) = recordSample (keptSamples inputs) sample :=
    fun sample => List.foldl_concat recordSample [] sample inputs
  refine ⟨?_, ?_, ?_, ?_, ?_, ?_, ?_, ?_, ?_⟩
  · rw [kept]
    exact chronological.sublist part.sublist
  · rw [kept]
    exact unbroken.suffix part
  · intro start known
    rw [kept, windowStart, latest_window] at known
    rw [kept, window_eq_shift _ start known]
    exact length_filter_shift Sent.time start _ chronological
  · intro last sample newest late
    rw [next, recordSample, newest]
    exact if_pos late
  · intro last sample newest same
    rw [next, recordSample_eq, kept] at *
    exact record_window_same Sent.time trendSeconds gapSeconds trendSeconds_pos _ last sample
      newest same
  · rw [kept]
    exact depthChange_window _ chronological
  · rw [kept]
    exact meanAckRate_window _ chronological
  · rw [kept]
    exact lagSeconds_window _ chronological
  · rw [kept]
    exact coverage_window _ chronological

end OperationsConsole.Browser
