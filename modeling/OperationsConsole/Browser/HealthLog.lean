/-
This file embeds the log of dead-letter queues in `dashboard.js`.
The page logs a queue when its assessment changes.
-/

import OperationsConsole.Browser.Overview
import OperationsConsole.Library.Loop

namespace OperationsConsole.Browser.HealthLog

open Library

/-- A cell is drawn from the state of its page. -/
structure DrawnCell where
  page : Overview
  pipeline : LayoutPipeline
  consumer : LayoutConsumer
  entity : String

inductive HealthInput where
  | cell (cell : DrawnCell)
  | resetHistory

structure Change where
  message : String
  type : Level
  deriving DecidableEq

section Steps

variable (builtins : Builtins) (kinds : Dict String HealthKind) (cell : DrawnCell)

def DrawnCell.model : CellModel :=
  cell.page.cellModel builtins cell.pipeline cell.consumer cell.entity

def DrawnCell.place : String := entityLabel builtins cell.entity ++ " → " ++ cell.consumer.label

def DrawnCell.message : String :=
  cell.place builtins ++ ": " ++ (cell.model builtins).dlq.label

/-- A cell tells of its dead-letter queue if it names one whose state is known. -/
def DrawnCell.known : Option (String × HealthKind) :=
  match (cell.model builtins).queue with
  | none => none
  | some queue =>
      if queue.deadLetterQueue = "" ∨ (cell.model builtins).dlq.state = .unknown then none
      else some (queue.deadLetterQueue, (cell.model builtins).dlq.kind)

def quietKinds : List HealthKind := [.drained, .flowing, .dlqEmpty]

/-- A problem is logged when it starts, and its end is logged after a problem only. -/
def changeOf (previous : Option HealthKind) : Option Change :=
  let health := (cell.model builtins).dlq
  if previous = some health.kind then none
  else if health.state = .crit then some ⟨cell.message builtins, .error⟩
  else if health.state = .warn then some ⟨cell.message builtins, .warning⟩
  else if previous.any fun kind => kind ∉ quietKinds then some ⟨cell.message builtins, .info⟩
  else none

def logHealthChange : Dict String HealthKind × Option Change :=
  match cell.known builtins with
  | none => (kinds, none)
  | some (name, kind) => (kinds.set name kind, changeOf builtins cell (kinds.get? name))

def step : HealthInput → Dict String HealthKind
  | .cell cell => (logHealthChange builtins kinds cell).1
  | .resetHistory => Dict.empty

end Steps

section Runs

variable (builtins : Builtins)

def healthKinds (history : List HealthInput) : Dict String HealthKind :=
  after (step builtins) Dict.empty history

/-- What a cell logs after a history. -/
def logged (history : List HealthInput) (cell : DrawnCell) : Option Change :=
  (logHealthChange builtins (healthKinds builtins history) cell).2

/-- The newest known kind of a queue since the last reset. -/
def lastKnown (name : String) : List HealthInput → Option HealthKind
  | [] | .resetHistory :: _ => none
  | .cell cell :: earlier =>
      match cell.known builtins with
      | none => lastKnown name earlier
      | some (own, kind) => if own = name then some kind else lastKnown name earlier

/-- An input leaves what is known of a queue, or tells the same kind again. -/
def Repeats (name : String) (kind : HealthKind) (input : HealthInput) : Prop :=
  ∃ cell, input = .cell cell ∧ ∀ told, cell.known builtins = some (name, told) → told = kind

/-- The page remembers the newest known kind of every queue. -/
theorem healthKinds_lastKnown (history : List HealthInput) (name : String) :
    (healthKinds builtins history).get? name = lastKnown builtins name history := by
  induction history with
  | nil => rfl
  | cons input earlier ih =>
      cases input with
      | resetHistory => rfl
      | cell cell =>
          change (logHealthChange builtins (healthKinds builtins earlier) cell).1.get? name = _
          unfold logHealthChange lastKnown
          cases cell.known builtins with
          | none => exact ih
          | some told =>
              change ((healthKinds builtins earlier).set told.1 told.2).get? name =
                if told.1 = name then some told.2 else lastKnown builtins name earlier
              rw [Dict.get?_set, ih]
              simp only [eq_comm]

/-- A known assessment of a dead-letter queue has one of three kinds. -/
def Assessed (health : Health) : Prop :=
  health.kind = .dlqGrowing ∧ health.state = .crit ∨
    health.kind = .dlqStatic ∧ health.state = .warn ∨
    health.kind = .dlqEmpty ∧ health.state = .ok

/-- The state that a known kind stands for. -/
def stateOf : HealthKind → HealthState
  | .dlqGrowing => .crit
  | .dlqStatic => .warn
  | _ => .ok

theorem Assessed.state_eq {health : Health} (assessed : Assessed health) :
    health.state = stateOf health.kind := by
  rcases assessed with ⟨kind, state⟩ | ⟨kind, state⟩ | ⟨kind, state⟩
  · rw [kind, state]
    rfl
  · rw [kind, state]
    rfl
  · rw [kind, state]
    rfl

theorem assessDlq_assessed (samples : List (Sent Sample))
    (stated : (assessDlq samples builtins).state ≠ .unknown) :
    Assessed (assessDlq samples builtins) := by
  unfold assessDlq at stated ⊢
  cases found : latest samples with
  | none =>
      rw [found] at stated
      exact absurd rfl stated
  | some last =>
      dsimp only
      split
      · exact .inl ⟨rfl, rfl⟩
      · split
        · exact .inr (.inl ⟨rfl, rfl⟩)
        · exact .inr (.inr ⟨rfl, rfl⟩)

theorem model_assessed (cell : DrawnCell) (stated : (cell.model builtins).dlq.state ≠ .unknown) :
    Assessed (cell.model builtins).dlq := by
  unfold DrawnCell.model Overview.cellModel at stated ⊢
  dsimp only at stated ⊢
  split at stated
  · exact absurd rfl stated
  · next shown =>
      rw [if_neg shown]
      exact assessDlq_assessed builtins _ stated

/-- The known assessments of a dead-letter queue are three. -/
theorem known_cases (cell : DrawnCell) (name : String) (kind : HealthKind)
    (known : cell.known builtins = some (name, kind)) :
    (cell.model builtins).dlq.kind = kind ∧ Assessed (cell.model builtins).dlq := by
  unfold DrawnCell.known at known
  cases queue : (cell.model builtins).queue with
  | none =>
      rw [queue] at known
      cases known
  | some queue' =>
      rw [queue] at known
      dsimp only at known
      split at known
      · cases known
      · next told =>
          rw [not_or] at told
          cases known
          exact ⟨rfl, model_assessed builtins cell told.2⟩

theorem known_kind (cell : DrawnCell) (name : String) (kind : HealthKind)
    (known : cell.known builtins = some (name, kind)) :
    kind = .dlqGrowing ∨ kind = .dlqStatic ∨ kind = .dlqEmpty := by
  obtain ⟨own, assessed⟩ := known_cases builtins cell name kind known
  rw [← own]
  rcases assessed with growing | static | empty
  · exact .inl growing.1
  · exact .inr (.inl static.1)
  · exact .inr (.inr empty.1)

theorem lastKnown_cases (history : List HealthInput) (name : String) (kind : HealthKind)
    (known : lastKnown builtins name history = some kind) :
    kind = .dlqGrowing ∨ kind = .dlqStatic ∨ kind = .dlqEmpty := by
  induction history with
  | nil => cases known
  | cons input earlier ih =>
      cases input with
      | resetHistory => cases known
      | cell cell =>
          unfold lastKnown at known
          cases told : cell.known builtins with
          | none =>
              rw [told] at known
              exact ih known
          | some pair =>
              rw [told] at known
              change (if pair.1 = name then some pair.2 else _) = _ at known
              split at known
              · cases known
                exact known_kind builtins cell pair.1 pair.2 told
              · exact ih known

theorem logged_known (history : List HealthInput) (cell : DrawnCell) (name : String)
    (kind : HealthKind) (known : cell.known builtins = some (name, kind)) :
    logged builtins history cell =
      changeOf builtins cell (lastKnown builtins name history) := by
  unfold logged logHealthChange
  rw [known]
  change changeOf builtins cell ((healthKinds builtins history).get? name) = _
  rw [healthKinds_lastKnown]

/-- A kind stays known while inputs repeat it. -/
theorem lastKnown_repeats (between earlier : List HealthInput) (name : String) (kind : HealthKind)
    (last : lastKnown builtins name earlier = some kind)
    (repeats : ∀ input ∈ between, Repeats builtins name kind input) :
    lastKnown builtins name (between ++ earlier) = some kind := by
  induction between with
  | nil => exact last
  | cons input between ih =>
      have before := ih fun other member => repeats other (List.mem_cons_of_mem _ member)
      obtain ⟨cell, same, told⟩ := repeats input List.mem_cons_self
      subst same
      rw [List.cons_append, lastKnown]
      cases known : cell.known builtins with
      | none => exact before
      | some pair =>
          change (if pair.1 = name then some pair.2 else _) = _
          split
          · next own =>
              rw [told pair.2 (by rw [known, ← own])]
          · exact before

/-- This law says what a page logs of a cell after any history. -/
structure HealthLogLaw (history : List HealthInput) (cell : DrawnCell) : Prop where
  silent : cell.known builtins = none → logged builtins history cell = none
  kinds : ∀ name kind, cell.known builtins = some (name, kind) →
    kind = .dlqGrowing ∨ kind = .dlqStatic ∨ kind = .dlqEmpty
  growing : ∀ name, cell.known builtins = some (name, .dlqGrowing) →
    logged builtins history cell =
      if lastKnown builtins name history = some .dlqGrowing then none
      else some ⟨cell.message builtins, .error⟩
  static : ∀ name, cell.known builtins = some (name, .dlqStatic) →
    logged builtins history cell =
      if lastKnown builtins name history = some .dlqStatic then none
      else some ⟨cell.message builtins, .warning⟩
  emptied : ∀ name, cell.known builtins = some (name, .dlqEmpty) →
    logged builtins history cell =
      if lastKnown builtins name history = some .dlqGrowing ∨
          lastKnown builtins name history = some .dlqStatic then
        some ⟨cell.message builtins, .info⟩
      else none
  once : ∀ name kind between earlier first, cell.known builtins = some (name, kind) →
    first.known builtins = some (name, kind) → history = between ++ .cell first :: earlier →
    (∀ input ∈ between, Repeats builtins name kind input) → logged builtins history cell = none

theorem logged_emptied (history : List HealthInput) (cell : DrawnCell) (name : String)
    (known : cell.known builtins = some (name, .dlqEmpty)) :
    logged builtins history cell =
      if lastKnown builtins name history = some .dlqGrowing ∨
          lastKnown builtins name history = some .dlqStatic then
        some ⟨cell.message builtins, .info⟩
      else none := by
  obtain ⟨own, assessed⟩ := known_cases builtins cell name _ known
  have state : (cell.model builtins).dlq.state = .ok := by
    rw [assessed.state_eq, own]
    rfl
  rw [logged_known builtins history cell name _ known, changeOf, own, state]
  cases last : lastKnown builtins name history with
  | none => simp
  | some kind =>
      rcases lastKnown_cases builtins history name kind last with same | same | same
      · simp [same, quietKinds]
      · simp [same, quietKinds]
      · simp [same]

/-- After every history a drawn cell is logged exactly for a change of its state. -/
theorem healthLog_law (history : List HealthInput) (cell : DrawnCell) :
    HealthLogLaw builtins history cell where
  silent := by
    intro unknown
    unfold logged logHealthChange
    rw [unknown]
  kinds := known_kind builtins cell
  growing := by
    intro name known
    obtain ⟨own, assessed⟩ := known_cases builtins cell name _ known
    have state : (cell.model builtins).dlq.state = .crit := by
      rw [assessed.state_eq, own]
      rfl
    rw [logged_known builtins history cell name _ known, changeOf, own, state]
    rfl
  static := by
    intro name known
    obtain ⟨own, assessed⟩ := known_cases builtins cell name _ known
    have state : (cell.model builtins).dlq.state = .warn := by
      rw [assessed.state_eq, own]
      rfl
    rw [logged_known builtins history cell name _ known, changeOf, own, state]
    rfl
  emptied := logged_emptied builtins history cell
  once := by
    intro name kind between earlier first known before split repeats
    have last : lastKnown builtins name (.cell first :: earlier) = some kind := by
      rw [lastKnown, before]
      exact if_pos rfl
    rw [logged_known builtins history cell name kind known, split,
      lastKnown_repeats builtins between _ name kind last repeats, changeOf,
      (known_cases builtins cell name kind known).1]
    exact if_pos rfl

end Runs

end OperationsConsole.Browser.HealthLog
