/-
This file embeds the rules of `QueueHealth` in `dashboard.js` that assess one cell of the matrix.
Every rule reads the kept samples of a queue, the oldest first.
-/

import OperationsConsole.Browser.Layout
import Mathlib.Data.Rat.Floor

namespace OperationsConsole.Browser

inductive HealthState where
  | unknown
  | ok
  | warn
  | crit
  deriving DecidableEq

/-- This is `RANK`. -/
def HealthState.rank : HealthState → Nat
  | unknown => 0
  | ok => 1
  | warn => 2
  | crit => 3

/-- The first of the most severe states wins, and the unknown state is the least. -/
def worst (states : List HealthState) : HealthState :=
  states.foldl (fun a b => if a.rank < b.rank then b else a) .unknown

inductive HealthKind where
  | missing
  | unavailable
  | condition (kind : ConditionKind)
  | drained
  | flowing
  | dlqMissing
  | dlqGrowing
  | dlqStatic
  | dlqEmpty
  deriving DecidableEq

/-- The assessment of a queue names the rule that decided its state. -/
structure Health where
  state : HealthState
  kind : HealthKind
  label : String
  deriving DecidableEq

inductive Direction where
  | steady
  | rising
  | falling
  deriving DecidableEq

/-- This is `Math.round`. -/
def mathRound (number : ℚ) : ℤ := ⌊number + 1 / 2⌋

def formatCount (builtins : Builtins) (n : ℤ) : String :=
  if 1000000 ≤ n then s!"{builtins.toFixed (n / 1000000) (if 10000000 ≤ n then 1 else 2)}M"
  else if 10000 ≤ n then s!"{mathRound (n / 1000)}k"
  else if 1000 ≤ n then s!"{builtins.toFixed (n / 1000) 1}k"
  else s!"{n}"

/-- The page formats only finite durations, and the minutes of an hour have two digits. -/
def formatDuration (s : ℚ) : String :=
  if s < 60 then s!"{max 1 (mathRound s)}s"
  else if s < 3600 then s!"{mathRound (s / 60)}m"
  else
    let h := ⌊s / 3600⌋
    let m := mathRound ((s - h * 3600) / 60)
    if m = 0 then s!"{h}h"
    else if 0 ≤ m ∧ m < 10 then s!"{h}h0{m}m"
    else s!"{h}h{m}m"

section Samples

variable (samples : List (Sent Sample))

def latest : Option Sample := samples.getLast?.map Sent.value

/-- The mean takes the rates that were computed within the window. -/
def meanAckRate : Option ℚ :=
  (latest samples).bind fun last =>
    let rates := samples.filterMap fun sample =>
      if last.time - sample.value.time ≤ trendSeconds then sample.value.reading.ackRate else none
    if rates.isEmpty then none else some (rates.sum / rates.length)

/-- The lag is zero without a backlog, and infinite when nothing is acknowledged. -/
def lagSeconds : Option (WithTop ℚ) :=
  (latest samples).bind fun last =>
    if last.reading.messages = 0 then some 0
    else (meanAckRate samples).map fun ack =>
      if 0 < ack then ((last.reading.messages / ack : ℚ) : WithTop ℚ) else ⊤

/-- The change compares the depth now with the depth of the oldest kept sample. -/
def depthChange : ℤ :=
  match samples, latest samples with
  | first :: _, some last => last.reading.messages - first.value.reading.messages
  | _, _ => 0

/-- The history covers the seconds from its oldest sample to its newest, up to the trend window. -/
def coverage : ℚ :=
  match samples, latest samples with
  | first :: _, some last => min trendSeconds (last.time - first.value.time)
  | _, _ => 0

/-- A change of the depth below `TREND_MIN_CHANGE` reads as steady. -/
def trend : Direction × ℤ :=
  let change := depthChange samples
  if |change| < 1000 then (.steady, change)
  else (if 0 < change then .rising else .falling, change)

/-- A work queue is critical when the server says so, except in an expected wait. -/
def assessQueue : Health :=
  match latest samples with
  | none => ⟨.unknown, .missing, "not reported"⟩
  | some last =>
      match last.reading.condition with
      | some ⟨.awaitingMarker, label⟩ => ⟨.ok, .condition .awaitingMarker, label⟩
      | some ⟨kind, label⟩ => ⟨.crit, .condition kind, label⟩
      | none =>
          if last.reading.messages = 0 then ⟨.ok, .drained, "drained"⟩
          else ⟨.ok, .flowing, "flowing"⟩

/-- A dead-letter queue is critical while it grows, and a warning while it holds messages. -/
def assessDlq (builtins : Builtins) : Health :=
  match latest samples with
  | none => ⟨.unknown, .dlqMissing, "DLQ not reported"⟩
  | some last =>
      let grown := depthChange samples
      if 0 < grown then ⟨.crit, .dlqGrowing, s!"DLQ +{formatCount builtins grown} / 5m"⟩
      else if 0 < last.reading.messages then
        ⟨.warn, .dlqStatic, s!"DLQ {formatCount builtins last.reading.messages}"⟩
      else ⟨.ok, .dlqEmpty, "DLQ empty"⟩

end Samples

/-- A critical state is exactly one of the two critical states. -/
theorem worst_eq_crit_iff (first second : HealthState) :
    worst [first, second] = .crit ↔ first = .crit ∨ second = .crit := by
  cases first <;> cases second <;> decide

/-- The critical assessments of a work queue are the conditions of two kinds. -/
theorem assessQueue_crit_iff (samples : List (Sent Sample)) :
    (assessQueue samples).state = .crit ↔
      (assessQueue samples).kind = .condition .noConsumer ∨
        (assessQueue samples).kind = .condition .stalled := by
  unfold assessQueue
  cases latest samples with
  | none => decide
  | some last =>
      dsimp only
      rcases last.reading.condition with _ | ⟨kind, label⟩
      · dsimp only
        split <;> decide
      · cases kind <;> simp

/-- A work queue has no assessment of a dead-letter queue. -/
theorem assessQueue_ne_growing (samples : List (Sent Sample)) :
    (assessQueue samples).kind ≠ .dlqGrowing := by
  unfold assessQueue
  cases latest samples with
  | none => simp
  | some last =>
      dsimp only
      rcases last.reading.condition with _ | ⟨kind, label⟩
      · dsimp only
        split <;> simp
      · cases kind <;> simp

/-- A queue that awaits its marker is drawn quietly. -/
theorem assessQueue_awaiting (samples : List (Sent Sample)) (last : Sample) (label : String)
    (newest : latest samples = some last)
    (waits : last.reading.condition = some ⟨.awaitingMarker, label⟩) :
    assessQueue samples = ⟨.ok, .condition .awaitingMarker, label⟩ := by
  rw [assessQueue, newest]
  dsimp only
  rw [waits]

/-- The assessment of a dead-letter queue has the state of its kind. -/
theorem assessDlq_cases (samples : List (Sent Sample)) (builtins : Builtins) :
    (assessDlq samples builtins).kind = .dlqGrowing ∧
        (assessDlq samples builtins).state = .crit ∨
      (assessDlq samples builtins).kind = .dlqStatic ∧
        (assessDlq samples builtins).state = .warn ∨
      ((assessDlq samples builtins).kind = .dlqMissing ∨
          (assessDlq samples builtins).kind = .dlqEmpty) ∧
        (assessDlq samples builtins).state ≠ .crit := by
  unfold assessDlq
  cases latest samples with
  | none => simp
  | some last =>
      dsimp only
      split
      · exact .inl ⟨rfl, rfl⟩
      · split
        · exact .inr (.inl ⟨rfl, rfl⟩)
        · simp

end OperationsConsole.Browser
