/-
This file embeds the rules of `RunProgress` in `dashboard.js` for the headline of a running run.
The blocked cells come first, then a missing number, and then the slowest estimate.
-/

import OperationsConsole.Browser.QueueHealth

namespace OperationsConsole.Browser

/-- The progress answer counts each entity type, and a number it cannot tell is absent. -/
structure EntityTotals where
  entity : String
  extracted : Option ℚ
  waitingForCheckpoint : Bool
  expected : Option ℚ
  fileProgress : Option ℚ
  deriving DecidableEq

structure QueueProgress where
  queue : String
  loaded : Option ℚ
  deriving DecidableEq

structure ProgressData where
  entities : List EntityTotals
  queues : List QueueProgress
  deriving DecidableEq

/-- The page keeps an answer or an error for the run of a pipeline. -/
structure ProgressNumbers where
  data : Option ProgressData
  error : Option String
  deriving DecidableEq

/-- A cell as the run sees it carries the assessments of the matrix. -/
structure ProgressCell where
  consumer : String
  consumerLabel : String
  entity : String
  entityLabel : String
  queue : String
  health : Health
  dlq : Health
  expected : Option ℚ
  extracted : Option ℚ
  fileProgress : Option ℚ
  loaded : Option ℚ
  dlqDepth : ℤ
  queueDepth : Option ℤ
  meanAck : Option ℚ
  gap : Option String
  deriving DecidableEq

/-- The gap says why the progress of a cell cannot be derived. -/
def progressGap (entityLabel consumerLabel : String) (totals : Option EntityTotals)
    (acked : Option QueueProgress) : Option String :=
  match totals with
  | none => some "no history from the run's start"
  | some totals =>
      if totals.extracted = none then some "no history from the run's start"
      else if totals.extracted = some 0 then some s!"{entityLabel} not extracted yet"
      else if totals.waitingForCheckpoint then
        some s!"{entityLabel} waiting for the extractor's first progress checkpoint"
      else if totals.expected = none then some s!"no file progress for {entityLabel}"
      else if acked.bind QueueProgress.loaded = none then
        some s!"no acked baseline for {consumerLabel} · {entityLabel}"
      else none

/-- The estimate is absent when the remaining work is unknown or nothing is acknowledged. -/
def ProgressCell.eta (cell : ProgressCell) : Option ℚ :=
  match cell.expected, cell.loaded with
  | some expected, some loaded =>
      let remaining := max 0 (expected - loaded - cell.dlqDepth)
      let finished := cell.fileProgress.any (fun progress => 1 ≤ progress) &&
        cell.queueDepth = some 0
      if remaining < 1 then some 0
      else match cell.meanAck with
        | some meanAck =>
            if 0 < meanAck then some (remaining / meanAck)
            else if finished then some 0 else none
        | none => if finished then some 0 else none
  | _, _ => none

/-- These are the `BLOCKERS`, as the headline names them. -/
def blocker : HealthKind → Option String
  | .condition .stalled => some "stalled"
  | .condition .noConsumer => some "has no consumer"
  | .dlqGrowing => some "DLQ growing"
  | _ => none

/-- A reason names its cell by the labels of the consumer and the entity type. -/
structure Reason where
  consumer : String
  consumerLabel : String
  entity : String
  entityLabel : String
  blocker : String
  deriving DecidableEq

def Reason.text (reason : Reason) : String :=
  s!"{reason.consumerLabel} · {reason.entityLabel} {reason.blocker}"

/-- Each assessment of a cell that blocks the run is a reason. -/
def ProgressCell.reasons (cell : ProgressCell) : List Reason :=
  [cell.health, cell.dlq].filterMap fun health =>
    (blocker health.kind).map fun text =>
      ⟨cell.consumer, cell.consumerLabel, cell.entity, cell.entityLabel, text⟩

inductive Headline where
  | cannotFinish (reasons : List Reason)
  | unavailable (missing : String)
  | unknown (consumerLabel entityLabel : String)
  | loaded
  | finishes (eta : ℚ) (consumerLabel : String)
  deriving DecidableEq

namespace Headline

def kind : Headline → String
  | cannotFinish _ => "cannot-finish"
  | unavailable _ => "unavailable"
  | unknown _ _ => "unknown"
  | loaded => "loaded"
  | finishes _ _ => "finishes"

def state : Headline → HealthState
  | cannotFinish _ => .crit
  | unavailable _ => .unknown
  | unknown _ _ => .unknown
  | loaded => .ok
  | finishes _ _ => .ok

def text : Headline → String
  | cannotFinish reasons => "Cannot finish: " ++ ", ".intercalate (reasons.map Reason.text)
  | unavailable missing => s!"Progress unavailable: {missing}"
  | unknown consumerLabel entityLabel =>
      s!"Finish time unknown: no ack rate for {consumerLabel} · {entityLabel}"
  | loaded => "Loaded"
  | finishes eta _ => s!"Finishes in {formatDuration eta}"

def detail : Headline → Option String
  | finishes _ consumerLabel => some s!"bottleneck {consumerLabel}"
  | _ => none

/-- These are the cells that the text of the headline lists. -/
def reasons : Headline → List Reason
  | cannotFinish reasons => reasons
  | _ => []

end Headline

/-- The error of the answer comes before the first gap, and no cells are no queues. -/
def missingProgress (error : Option String) (cells : List ProgressCell) : Option String :=
  match error.filter fun text => text ≠ "" with
  | some text => some text
  | none => if cells.isEmpty then some "no queues" else cells.findSome? ProgressCell.gap

/-- The first of the slowest cells is the bottleneck. -/
def slowest (first : ProgressCell × ℚ) (rest : List (ProgressCell × ℚ)) : ProgressCell × ℚ :=
  rest.foldl (fun a b => if a.2 < b.2 then b else a) first

/-- A run that is not in progress has no headline. -/
def headline (running : Bool) (error : Option String) (cells : List ProgressCell) :
    Option Headline :=
  if running then
    let reasons := cells.flatMap ProgressCell.reasons
    if reasons ≠ [] then some (.cannotFinish reasons)
    else match missingProgress error cells with
      | some missing => some (.unavailable missing)
      | none =>
          match cells.find? fun cell => cell.eta = none with
          | some cell => some (.unknown cell.consumerLabel cell.entityLabel)
          | none =>
              match cells.map fun cell => (cell, cell.eta.getD 0) with
              | [] => none
              | first :: rest =>
                  let last := slowest first rest
                  if last.2 = 0 then some .loaded
                  else some (.finishes last.2 last.1.consumerLabel)
  else none

/-- The headline names three kinds. -/
theorem blocker_isSome_iff (kind : HealthKind) :
    (blocker kind).isSome ↔
      kind = .condition .noConsumer ∨ kind = .condition .stalled ∨ kind = .dlqGrowing := by
  cases kind with
  | condition kind => cases kind <;> simp [blocker]
  | _ => simp [blocker]

/-- A cell blocks the run exactly with a critical kind of an assessment. -/
theorem mem_reasons_iff (cell : ProgressCell) (reason : Reason) :
    reason ∈ cell.reasons ↔
      (blocker cell.health.kind = some reason.blocker ∨
        blocker cell.dlq.kind = some reason.blocker) ∧
      reason.consumer = cell.consumer ∧ reason.consumerLabel = cell.consumerLabel ∧
      reason.entity = cell.entity ∧ reason.entityLabel = cell.entityLabel := by
  cases reason
  simp only [ProgressCell.reasons, List.mem_filterMap, List.mem_cons, List.not_mem_nil, or_false,
    Option.map_eq_some_iff, Reason.mk.injEq, exists_eq_or_imp, exists_eq_left]
  constructor
  · rintro (⟨text, found, same⟩ | ⟨text, found, same⟩)
    · simp_all
    · simp_all
  · rintro ⟨found | found, same⟩
    · exact .inl ⟨_, found, by simp_all⟩
    · exact .inr ⟨_, found, by simp_all⟩

/-- A run without a blocked cell can finish. -/
theorem headline_unblocked (error : Option String) (cells : List ProgressCell) (drawn : Headline)
    (free : cells.flatMap ProgressCell.reasons = [])
    (shown : headline true error cells = some drawn) : drawn.kind ≠ "cannot-finish" := by
  unfold headline at shown
  dsimp only at shown
  rw [if_pos rfl, if_neg (not_not.mpr free)] at shown
  split at shown
  · rw [← Option.some.inj shown]
    simp [Headline.kind]
  · split at shown
    · rw [← Option.some.inj shown]
      simp [Headline.kind]
    · split at shown
      · simp at shown
      · split at shown
        · rw [← Option.some.inj shown]
          simp [Headline.kind]
        · rw [← Option.some.inj shown]
          simp [Headline.kind]

/-- The headline of a running run cannot finish exactly with a reason, and it lists them all. -/
theorem headline_reasons (error : Option String) (cells : List ProgressCell) (reason : Reason) :
    (∃ drawn, headline true error cells = some drawn ∧ drawn.kind = "cannot-finish" ∧
      reason ∈ drawn.reasons) ↔ reason ∈ cells.flatMap ProgressCell.reasons := by
  by_cases free : cells.flatMap ProgressCell.reasons = []
  · constructor
    · rintro ⟨drawn, shown, cannotFinish, _⟩
      exact absurd cannotFinish (headline_unblocked error cells drawn free shown)
    · intro member
      rw [free] at member
      exact absurd member List.not_mem_nil
  · have shown : headline true error cells =
        some (.cannotFinish (cells.flatMap ProgressCell.reasons)) := by
      unfold headline
      dsimp only
      rw [if_pos rfl, if_pos free]
    constructor
    · rintro ⟨drawn, other, _, member⟩
      rw [shown] at other
      rw [← Option.some.inj other] at member
      exact member
    · intro member
      exact ⟨_, shown, rfl, member⟩

end OperationsConsole.Browser
