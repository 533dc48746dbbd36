/-
This file decides when the headline of a run may say that the run is loaded.
The estimate subtracts the depth of a dead-letter queue, which counts the messages of earlier runs.
-/

import Mathlib.Tactic.Linarith
import OperationsConsole.Browser.Overview

namespace OperationsConsole.Browser

open Library

section Slowest

variable (first : ProgressCell × ℚ) (rest : List (ProgressCell × ℚ))

/-- The bottleneck is one of the timed cells. -/
theorem slowest_mem : slowest first rest ∈ first :: rest := by
  induction rest generalizing first with
  | nil => exact List.mem_singleton_self first
  | cons second others ih =>
      change slowest (if first.2 < second.2 then second else first) others ∈ _
      rcases List.mem_cons.mp (ih (if first.2 < second.2 then second else first)) with same | later
      · rw [same]
        split
        · exact List.mem_cons_of_mem first List.mem_cons_self
        · exact List.mem_cons_self
      · exact List.mem_cons_of_mem first (List.mem_cons_of_mem second later)

/-- No timed cell is slower than the bottleneck. -/
theorem le_slowest : ∀ timed ∈ first :: rest, timed.2 ≤ (slowest first rest).2 := by
  induction rest generalizing first with
  | nil =>
      intro timed member
      rw [List.mem_singleton.mp member]
      exact le_rfl
  | cons second others ih =>
      intro timed member
      have bound := ih (if first.2 < second.2 then second else first)
      have head := bound _ List.mem_cons_self
      change timed.2 ≤ (slowest (if first.2 < second.2 then second else first) others).2
      rcases List.mem_cons.mp member with equal | later
      · rw [equal]
        refine le_trans ?_ head
        split
        · rename_i faster
          exact faster.le
        · exact le_rfl
      · rcases List.mem_cons.mp later with equal | inside
        · rw [equal]
          refine le_trans ?_ head
          split
          · exact le_rfl
          · rename_i slower
            exact not_lt.mp slower
        · exact bound timed (List.mem_cons_of_mem _ inside)

end Slowest

namespace ProgressCell

variable (cell : ProgressCell)

/-- The acknowledged records and some dead letters reach the expected total. -/
def Covered (deadLetters : ℚ) : Prop :=
  ∃ expected loaded, cell.expected = some expected ∧ cell.loaded = some loaded ∧
    expected - loaded - deadLetters < 1

/-- The file of the entity type is read and the work queue is empty. -/
def ReadAndEmpty : Prop :=
  cell.fileProgress.any (fun progress => 1 ≤ progress) = true ∧ cell.queueDepth = some 0

/-- An estimate is never negative. -/
theorem eta_nonneg (estimate : ℚ) (known : cell.eta = some estimate) : 0 ≤ estimate := by
  unfold eta at known
  split at known
  · dsimp only at known
    split at known
    · rw [← Option.some.inj known]
    · rename_i left
      split at known
      · split at known
        · rename_i acknowledged
          rw [← Option.some.inj known]
          exact div_nonneg (zero_le_one.trans (not_lt.mp left)) acknowledged.le
        · split at known
          · rw [← Option.some.inj known]
          · cases known
      · split at known
        · rw [← Option.some.inj known]
        · cases known
  · cases known

/-- An estimate is zero when the depth of the dead-letter queue covers the rest, or when the cell is
finished and nothing is acknowledged any more. -/
theorem eta_eq_zero_iff :
    cell.eta = some 0 ↔
      cell.Covered cell.dlqDepth ∨
        cell.expected ≠ none ∧ cell.loaded ≠ none ∧ cell.ReadAndEmpty ∧
          ∀ meanAck, cell.meanAck = some meanAck → ¬0 < meanAck := by
  unfold eta Covered ReadAndEmpty
  cases cell.expected with
  | none => simp
  | some expected =>
      cases cell.loaded with
      | none => simp
      | some loaded =>
          have rest : max 0 (expected - loaded - (cell.dlqDepth : ℚ)) < 1 ↔
              expected - loaded - (cell.dlqDepth : ℚ) < 1 := by
            rw [max_lt_iff, and_iff_right zero_lt_one]
          simp only [Option.some.injEq, ne_eq, reduceCtorEq, not_false_eq_true, true_and]
          by_cases covered : expected - loaded - (cell.dlqDepth : ℚ) < 1
          · rw [if_pos (rest.mpr covered)]
            simp [covered]
          · rw [if_neg (fun under => covered (rest.mp under))]
            have positive : 0 < max 0 (expected - loaded - (cell.dlqDepth : ℚ)) :=
              zero_lt_one.trans_le (not_lt.mp fun under => covered (rest.mp under))
            cases cell.meanAck with
            | none => simp [covered]
            | some meanAck =>
                by_cases acknowledged : 0 < meanAck
                · have slow : max 0 (expected - loaded - (cell.dlqDepth : ℚ)) / meanAck ≠ 0 :=
                    (div_pos positive acknowledged).ne'
                  simp [covered, acknowledged, slow]
                · simp [covered, acknowledged, not_lt.mp acknowledged]

/-- The dead letters of the run and the acknowledged records reach the total, or all is done. -/
def Done (deadLettered : ℚ) : Prop := cell.Covered deadLettered ∨ cell.ReadAndEmpty

/-- Other messages in the dead-letter queue hide that records of the run are missing. -/
def Masked (deadLettered : ℚ) : Prop :=
  cell.Covered cell.dlqDepth ∧ ¬cell.Covered deadLettered ∧ ¬cell.ReadAndEmpty

/-- A cell keeps the headline from a verdict when it is blocked, when a number is missing, or when
records are left that are still acknowledged or not all read. -/
def HoldsBack : Prop :=
  cell.reasons ≠ [] ∨ cell.gap ≠ none ∨ cell.expected = none ∨ cell.loaded = none ∨
    ¬cell.Covered cell.dlqDepth ∧
      (¬cell.ReadAndEmpty ∨ ∃ meanAck, cell.meanAck = some meanAck ∧ 0 < meanAck)

theorem covered_known (deadLetters : ℚ) (covered : cell.Covered deadLetters) :
    cell.expected ≠ none ∧ cell.loaded ≠ none := by
  obtain ⟨expected, loaded, known, counted, _⟩ := covered
  rw [known, counted]
  exact ⟨Option.some_ne_none expected, Option.some_ne_none loaded⟩

/-- A cell does not hold back exactly when it is free, complete, and estimated at zero. -/
theorem not_holdsBack_iff :
    ¬cell.HoldsBack ↔ cell.reasons = [] ∧ cell.gap = none ∧ cell.eta = some 0 := by
  have known := cell.covered_known cell.dlqDepth
  rw [eta_eq_zero_iff, HoldsBack]
  push Not
  constructor
  · rintro ⟨free, complete, expected, loaded, finished⟩
    refine ⟨free, complete, ?_⟩
    by_cases covered : cell.Covered cell.dlqDepth
    · exact .inl covered
    · obtain ⟨read, slow⟩ := finished covered
      exact .inr ⟨expected, loaded, read, slow⟩
  · rintro ⟨free, complete, covered | ⟨expected, loaded, read, slow⟩⟩
    · obtain ⟨expected, loaded⟩ := known covered
      exact ⟨free, complete, expected, loaded, fun uncovered => absurd covered uncovered⟩
    · exact ⟨free, complete, expected, loaded, fun _ => ⟨read, slow⟩⟩

end ProgressCell

section Headline

variable (running : Bool) (error : Option String) (cells : List ProgressCell)

/-- The progress answer of the run has the text of an error. -/
def HasError : Prop := ∃ text, error = some text ∧ text ≠ ""

theorem missingProgress_eq_none_iff :
    missingProgress error cells = none ↔
      ¬HasError error ∧ cells ≠ [] ∧ ∀ cell ∈ cells, cell.gap = none := by
  unfold missingProgress
  by_cases failed : HasError error
  · obtain ⟨text, rfl, named⟩ := failed
    have kept : (some text).filter (fun text => text ≠ "") = some text := by
      simp [Option.filter, named]
    rw [kept]
    have failed : HasError (some text) := ⟨text, rfl, named⟩
    simp [failed]
  · have dropped : error.filter (fun text => text ≠ "") = none := by
      cases error with
      | none => rfl
      | some text =>
          have unnamed : text = "" := by
            by_contra named
            exact failed ⟨text, rfl, named⟩
          simp [Option.filter, unnamed]
    rw [dropped]
    cases cells with
    | nil => simp
    | cons cell rest => simp [failed]

/-- A cell with the estimate that the headline compares. -/
def timed (cell : ProgressCell) : ProgressCell × ℚ := (cell, cell.eta.getD 0)

/-- The slowest estimate is zero exactly when every estimate is. -/
theorem slowest_eq_zero_iff (first : ProgressCell) (rest : List ProgressCell)
    (known : ∀ cell ∈ first :: rest, cell.eta ≠ none) :
    (slowest (timed first) (rest.map timed)).2 = 0 ↔ ∀ cell ∈ first :: rest, cell.eta = some 0 := by
  constructor
  · intro zero cell member
    obtain ⟨estimate, present⟩ := Option.ne_none_iff_exists'.mp (known cell member)
    have bound := le_slowest (timed first) (rest.map timed) (timed cell) (by
      rw [← List.map_cons]
      exact List.mem_map_of_mem member)
    rw [zero, timed, present, Option.getD_some] at bound
    change estimate ≤ 0 at bound
    rw [present, le_antisymm bound (cell.eta_nonneg estimate present)]
  · intro zero
    have member := slowest_mem (timed first) (rest.map timed)
    rw [← List.map_cons] at member
    obtain ⟨cell, inside, same⟩ := List.mem_map.mp member
    rw [← same, timed, zero cell inside]
    rfl

/-- Without a blocked cell and a missing number the headline looks at the estimates. -/
theorem headline_complete (free : cells.flatMap ProgressCell.reasons = [])
    (complete : missingProgress error cells = none) :
    headline true error cells = some .loaded ↔ ∀ cell ∈ cells, cell.eta = some 0 := by
  have present := ((missingProgress_eq_none_iff error cells).mp complete).2.1
  unfold headline
  dsimp only
  rw [if_pos rfl, if_neg (not_not.mpr free), complete]
  dsimp only
  cases unknown : cells.find? fun cell => cell.eta = none with
  | some cell =>
      have absent : cell.eta = none := by simpa using List.find?_some unknown
      have member := List.mem_of_find?_eq_some unknown
      simp only [Option.some.injEq, reduceCtorEq, false_iff, not_forall]
      refine ⟨cell, member, ?_⟩
      simp [absent]
  | none =>
      have known : ∀ cell ∈ cells, cell.eta ≠ none := by simpa using unknown
      cases cells with
      | nil => exact absurd rfl present
      | cons first rest =>
          rw [← slowest_eq_zero_iff first rest known]
          change (if (slowest (timed first) (rest.map timed)).2 = 0 then some Headline.loaded
            else _) = some .loaded ↔ _
          by_cases zero : (slowest (timed first) (rest.map timed)).2 = 0
          · rw [if_pos zero]
            simp [zero]
          · rw [if_neg zero]
            simp [zero]

/-- The headline says that the run is loaded exactly when every cell is free, complete, and
estimated at zero. -/
theorem headline_loaded_iff :
    headline running error cells = some .loaded ↔
      running = true ∧ ¬HasError error ∧ cells ≠ [] ∧ ∀ cell ∈ cells, ¬cell.HoldsBack := by
  simp only [ProgressCell.not_holdsBack_iff]
  cases running with
  | false => simp [headline]
  | true =>
      by_cases free : cells.flatMap ProgressCell.reasons = []
      · have each : ∀ cell ∈ cells, cell.reasons = [] := List.flatMap_eq_nil_iff.mp free
        by_cases complete : missingProgress error cells = none
        · rw [headline_complete error cells free complete]
          obtain ⟨correct, present, gaps⟩ := (missingProgress_eq_none_iff error cells).mp complete
          constructor
          · intro zero
            exact ⟨rfl, correct, present, fun cell member =>
              ⟨each cell member, gaps cell member, zero cell member⟩⟩
          · rintro ⟨_, _, _, clear⟩ cell member
            exact (clear cell member).2.2
        · constructor
          · intro loaded
            obtain ⟨missing, known⟩ := Option.ne_none_iff_exists'.mp complete
            unfold headline at loaded
            dsimp only at loaded
            rw [if_pos rfl, if_neg (not_not.mpr free), known] at loaded
            cases loaded
          · rintro ⟨_, correct, present, clear⟩
            exact absurd ((missingProgress_eq_none_iff error cells).mpr
              ⟨correct, present, fun cell member => (clear cell member).2.1⟩) complete
      · constructor
        · intro loaded
          unfold headline at loaded
          dsimp only at loaded
          rw [if_pos rfl, if_pos free] at loaded
          cases loaded
        · rintro ⟨_, _, _, clear⟩
          exact absurd (List.flatMap_eq_nil_iff.mpr fun cell member => (clear cell member).1) free

end Headline

/-- A headline of the kind `loaded` means that every cell of the pipeline is done. The dead letters
of a work queue are the records of the run that it rejected since the run started. -/
def LoadedMeansLoaded (builtins : Builtins) (page : Overview) (pipeline : LayoutPipeline)
    (deadLettered : String → ℕ) : Prop :=
  ∀ drawn, page.runHeadline builtins pipeline = some drawn → drawn.kind = "loaded" →
    ∀ cell ∈ page.progressCells builtins pipeline, cell.Done (deadLettered cell.queue)

/-- Only messages that were in the dead-letter queue before the run can mask a cell. -/
theorem ProgressCell.masked_by_older (cell : ProgressCell) (atStart arrived : ℕ)
    (masked : cell.Masked arrived) (depth : cell.dlqDepth ≤ atStart + arrived) : 0 < atStart := by
  obtain ⟨⟨expected, loaded, known, counted, under⟩, uncovered, _⟩ := masked
  by_contra none
  have empty : atStart = 0 := by omega
  rw [empty] at depth
  have fewer : (cell.dlqDepth : ℚ) ≤ arrived := by
    have whole : cell.dlqDepth ≤ (arrived : ℤ) := by simpa using depth
    exact_mod_cast whole
  exact uncovered ⟨expected, loaded, known, counted, by linarith⟩

/-- The headline of a pipeline is kept from the verdict. -/
def VerdictWithheld (builtins : Builtins) (page : Overview) (pipeline : LayoutPipeline) : Prop :=
  page.running pipeline = false ∨
    HasError ((page.runProgress.get? pipeline.id).bind ProgressNumbers.error) ∨
    ∃ cell ∈ page.progressCells builtins pipeline, cell.HoldsBack

theorem kind_eq_loaded_iff (drawn : Headline) : drawn.kind = "loaded" ↔ drawn = .loaded := by
  cases drawn <;> simp [Headline.kind]

section Verdict

variable (builtins : Builtins) (page : Overview) (pipeline : LayoutPipeline)
variable (deadLettered : String → ℕ)

/-- A headline that is kept from the verdict says nothing wrong. -/
theorem loaded_of_withheld (withheld : VerdictWithheld builtins page pipeline) :
    LoadedMeansLoaded builtins page pipeline deadLettered := by
  intro drawn drew kind
  rw [(kind_eq_loaded_iff drawn).mp kind] at drew
  obtain ⟨runs, correct, _, clear⟩ := (headline_loaded_iff _ _ _).mp drew
  rcases withheld with still | failed | ⟨other, inside, held⟩
  · rw [still] at runs
    cases runs
  · exact absurd failed correct
  · exact absurd held (clear other inside)

/-- Without masked cells the verdict is right. -/
theorem loaded_of_unmasked
    (unmasked : ∀ cell ∈ page.progressCells builtins pipeline, ¬cell.Masked (deadLettered cell.queue)) :
    LoadedMeansLoaded builtins page pipeline deadLettered := by
  intro drawn drew kind cell member
  rw [(kind_eq_loaded_iff drawn).mp kind] at drew
  obtain ⟨_, _, _, clear⟩ := (headline_loaded_iff _ _ _).mp drew
  have zero := (cell.not_holdsBack_iff.mp (clear cell member)).2.2
  rcases cell.eta_eq_zero_iff.mp zero with covered | ⟨_, _, read, _⟩
  · by_contra undone
    obtain ⟨uncovered, unread⟩ := not_or.mp undone
    exact unmasked cell member ⟨covered, uncovered, unread⟩
  · exact .inr read

/-- The verdict is right in a run that began with empty dead-letter queues. -/
theorem loaded_of_emptyAtStart (atStart : String → ℕ) (empty : ∀ queue, atStart queue = 0)
    (depth : ∀ cell ∈ page.progressCells builtins pipeline,
      cell.dlqDepth ≤ (atStart cell.queue + deadLettered cell.queue : ℕ)) :
    LoadedMeansLoaded builtins page pipeline deadLettered := by
  apply loaded_of_unmasked
  intro cell member masked
  have older := cell.masked_by_older (atStart cell.queue) (deadLettered cell.queue) masked
    (by exact_mod_cast depth cell member)
  rw [empty] at older
  exact absurd older (lt_irrefl 0)

/-- The headline is right exactly when no cell is masked or something else withholds the verdict. -/
theorem loadedMeansLoaded_iff :
    LoadedMeansLoaded builtins page pipeline deadLettered ↔
      VerdictWithheld builtins page pipeline ∨
        ∀ cell ∈ page.progressCells builtins pipeline, ¬cell.Masked (deadLettered cell.queue) := by
  have shown := headline_loaded_iff (page.running pipeline)
    ((page.runProgress.get? pipeline.id).bind ProgressNumbers.error)
    (page.progressCells builtins pipeline)
  constructor
  · intro means
    by_contra neither
    obtain ⟨verdict, masked⟩ := not_or.mp neither
    push Not at masked
    obtain ⟨cell, member, covered, uncovered, unread⟩ := masked
    rw [VerdictWithheld, not_or, not_or, not_exists] at verdict
    obtain ⟨runs, correct, clear⟩ := verdict
    have loaded : page.runHeadline builtins pipeline = some .loaded :=
      shown.mpr ⟨Bool.not_eq_false _ ▸ runs, correct, List.ne_nil_of_mem member,
        fun other inside held => clear other ⟨inside, held⟩⟩
    rcases means .loaded loaded rfl cell member with reached | read
    · exact uncovered reached
    · exact unread read
  · intro condition
    rcases condition with withheld | unmasked
    · exact loaded_of_withheld builtins page pipeline deadLettered withheld
    · exact loaded_of_unmasked builtins page pipeline deadLettered unmasked

end Verdict

/-- This page shows a run whose only queue has acknowledged 90 of 100 records, while its
dead-letter queue holds 10 messages of an earlier run. -/
def olderDeadLetters : Overview where
  history := (Dict.empty.set "artists"
      [⟨0, ⟨0, ⟨"artists", 10, 10, 0, 1, some 2, some 2, none⟩⟩⟩]).set "artists.dlq"
      [⟨0, ⟨0, ⟨"artists.dlq", 10, 10, 0, 0, none, none, none⟩⟩⟩]
  runs := Dict.empty.set "discogs" ⟨"run", none, "running", some "2026-01-01", none⟩
  runProgress := Dict.empty.set "discogs"
    ⟨some ⟨[⟨"artists", some 100, false, some 100, some 1⟩], [⟨"artists", some 90⟩]⟩, none⟩

def artistsPipeline : LayoutPipeline where
  id := "discogs"
  label := "Discogs"
  entityTypes := ["artists"]
  producer := "extractor-discogs"
  consumers := [⟨⟨"graphinator", [⟨"artists", "artists", "artists.dlq"⟩]⟩, "Graphinator"⟩]
  named := by decide

def plainTexts : Builtins := ⟨id, id, id, fun _ _ => ""⟩

/-- The headline takes the dead letters of the earlier run for records of this one. -/
theorem loadedMeansLoaded_fails :
    ¬LoadedMeansLoaded plainTexts olderDeadLetters artistsPipeline fun _ => 0 := by
  intro means
  have loaded : olderDeadLetters.runHeadline plainTexts artistsPipeline = some .loaded := by
    decide +kernel
  obtain ⟨cell, shown⟩ : ∃ cell, olderDeadLetters.progressCells plainTexts artistsPipeline =
      [cell] ∧ cell.expected = some 100 ∧ cell.loaded = some 90 ∧ cell.queueDepth = some 10 :=
    ⟨_, rfl, by decide +kernel, by decide +kernel, by decide +kernel⟩
  obtain ⟨only, expected, counted, depth⟩ := shown
  rcases means .loaded loaded rfl cell (only ▸ List.mem_singleton_self cell) with
    ⟨total, acked, known, acknowledged, under⟩ | ⟨_, empty⟩
  · rw [expected, Option.some.injEq] at known
    rw [counted, Option.some.injEq] at acknowledged
    rw [← known, ← acknowledged] at under
    norm_num at under
  · rw [depth] at empty
    norm_num at empty

end OperationsConsole.Browser
