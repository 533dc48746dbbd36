/-
This file defines computations that ask questions and go on with the answers.
What a computation asks is recorded along every run.
-/

import Mathlib.Tactic.TypeStar

namespace Library

/-- A computation is done, or it asks a question and goes on with any answer. -/
inductive Asking (ρ α β : Type) where
  | done (result : β)
  | ask (question : ρ) (next : α → Asking ρ α β)

namespace Asking

variable {ρ α β γ σ ε : Type}

/-- A computation that raises an exception ends with it. -/
def attempt (run : Except ε β) (raises : ε → γ) (next : β → Asking ρ α γ) : Asking ρ α γ :=
  match run with
  | .ok value => next value
  | .error exception => done (raises exception)

/-- A run is the questions with their answers, and the result. -/
inductive Run : Asking ρ α β → List (ρ × α) → β → Prop
  | done (result : β) : Run (.done result) [] result
  | ask (question : ρ) (next : α → Asking ρ α β) (answer : α) (log : List (ρ × α)) (result : β)
      (later : Run (next answer) log result) : Run (.ask question next) ((question, answer) :: log) result

/-- Someone with a state answers the questions. -/
def follow (answer : σ → ρ → σ × α) (state : σ) : Asking ρ α β → σ × List (ρ × α) × β
  | done result => (state, [], result)
  | ask question next =>
      let answered := answer state question
      let later := follow answer answered.1 (next answered.2)
      (later.1, (question, answered.2) :: later.2.1, later.2.2)

theorem run_follow (answer : σ → ρ → σ × α) (state : σ) (program : Asking ρ α β) :
    Run program (follow answer state program).2.1 (follow answer state program).2.2 := by
  induction program generalizing state with
  | done result => exact .done result
  | ask question next ih => exact .ask question next _ _ _ (ih _ _)

theorem run_done_iff (result value : β) (log : List (ρ × α)) :
    Run (.done result) log value ↔ log = [] ∧ value = result := by
  constructor
  · intro run
    cases run
    exact ⟨rfl, rfl⟩
  · intro same
    rw [same.1, same.2]
    exact .done result

theorem run_ask_iff (question : ρ) (next : α → Asking ρ α β) (value : β) (log : List (ρ × α)) :
    Run (.ask question next) log value ↔
      ∃ answer later, log = (question, answer) :: later ∧ Run (next answer) later value := by
  constructor
  · intro run
    cases run with
    | ask question next answer later result run => exact ⟨answer, later, rfl, run⟩
  · intro found
    obtain ⟨answer, later, same, run⟩ := found
    rw [same]
    exact .ask question next answer later value run

theorem run_attempt_iff (run : Except ε β) (raises : ε → γ) (next : β → Asking ρ α γ) (value : γ)
    (log : List (ρ × α)) :
    Run (attempt run raises next) log value ↔
      (∃ found, run = .ok found ∧ Run (next found) log value) ∨
        ∃ exception, run = .error exception ∧ log = [] ∧ value = raises exception := by
  cases run with
  | ok found => simp [attempt]
  | error exception => simp [attempt, run_done_iff]

end Asking

end Library
