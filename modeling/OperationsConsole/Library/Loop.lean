/-
This file defines loops that thread a state through a list, and histories of such steps.
A history lists the inputs of a run with the newest input first.
-/

import Mathlib.Data.List.Basic

namespace Library

variable {σ τ α β γ ι : Type*}

/-- This loop threads a state through the items and collects one result per item. -/
def loop (body : σ → α → σ × β) : σ → List α → σ × List β
  | state, [] => (state, [])
  | state, item :: rest =>
      let first := body state item
      let later := loop body first.1 rest
      (later.1, first.2 :: later.2)

/-- The visits pair each item with the state in which the loop reaches it. -/
def visits (body : σ → α → σ × β) : σ → List α → List (σ × α)
  | _, [] => []
  | state, item :: rest => (state, item) :: visits body (body state item).1 rest

/-- The results of a loop are the results of its visits. -/
theorem loop_results (body : σ → α → σ × β) (state : σ) (items : List α) :
    (loop body state items).2 =
      (visits body state items).map fun visit => (body visit.1 visit.2).2 := by
  induction items generalizing state with
  | nil => rfl
  | cons item rest ih =>
      simp only [loop, visits, List.map_cons]
      rw [ih]

/-- A result of a loop is the result of one visit. -/
theorem mem_loop_results (body : σ → α → σ × β) (state : σ) (items : List α) (result : β) :
    result ∈ (loop body state items).2 ↔
      ∃ visit ∈ visits body state items, (body visit.1 visit.2).2 = result := by
  rw [loop_results, List.mem_map]

/-- A property that each pass preserves holds after the loop and at every visit. -/
theorem loop_invariant (body : σ → α → σ × β) (property : σ → Prop) (items : List α) (state : σ)
    (start : property state)
    (preserved : ∀ state, ∀ item ∈ items, property state → property (body state item).1) :
    property (loop body state items).1 ∧ ∀ visit ∈ visits body state items, property visit.1 := by
  induction items generalizing state with
  | nil => exact ⟨start, by simp [visits]⟩
  | cons item rest ih =>
      have next := preserved state item List.mem_cons_self start
      have later := ih (body state item).1 next fun state other member =>
        preserved state other (List.mem_cons_of_mem _ member)
      refine ⟨later.1, ?_⟩
      intro visit member
      rw [visits, List.mem_cons] at member
      rcases member with equal | member
      · rw [equal]
        exact start
      · exact later.2 visit member

/-- A view that each pass updates by itself is computed by folding its own update. -/
theorem loop_view (body : σ → α → σ × β) (view : σ → τ) (update : τ → α → τ)
    (items : List α) (state : σ)
    (agrees : ∀ state, ∀ item ∈ items, view (body state item).1 = update (view state) item) :
    view (loop body state items).1 = items.foldl update (view state) := by
  induction items generalizing state with
  | nil => rfl
  | cons item rest ih =>
      simp only [loop, List.foldl_cons]
      rw [ih _ fun state other member => agrees state other (List.mem_cons_of_mem _ member),
        agrees state item List.mem_cons_self]

/-- A view that no pass changes is unchanged by the loop. -/
theorem loop_frame (body : σ → α → σ × β) (view : σ → τ) (items : List α) (state : σ)
    (unchanged : ∀ state, ∀ item ∈ items, view (body state item).1 = view state) :
    view (loop body state items).1 = view state :=
  (loop_invariant body (fun later => view later = view state) items state rfl
    fun later item member equal => (unchanged later item member).trans equal).1

/-- Results that keep a key of their item list the same keys in the same order. -/
theorem loop_keys (body : σ → α → σ × β) (input : α → γ) (output : β → γ) (state : σ)
    (items : List α) (kept : ∀ state item, output (body state item).2 = input item) :
    (loop body state items).2.map output = items.map input := by
  induction items generalizing state with
  | nil => rfl
  | cons item rest ih => simp only [loop, List.map_cons, kept, ih]

/-- A loop over two parts continues from the state that the first part leaves. -/
theorem loop_append (body : σ → α → σ × β) (state : σ) (first second : List α) :
    loop body state (first ++ second) =
      ((loop body (loop body state first).1 second).1,
        (loop body state first).2 ++ (loop body (loop body state first).1 second).2) := by
  induction first generalizing state with
  | nil => rfl
  | cons item rest ih => simp only [List.cons_append, loop, ih]

/-- At the place of an item the loop has the result of its pass. -/
theorem loop_result_at (body : σ → α → σ × β) (state : σ) (before rest : List α) (item : α) :
    (loop body state (before ++ item :: rest)).2[before.length]? =
      some (body (loop body state before).1 item).2 := by
  induction before generalizing state with
  | nil => rfl
  | cons first later ih => exact ih (body state first).1

/-- A loop whose passes see only a view of the state cannot tell two states of one view apart. -/
theorem loop_determined (body : σ → α → σ × β) (view : σ → τ) (items : List α)
    (determined : ∀ first second, ∀ item ∈ items, view first = view second →
      (body first item).2 = (body second item).2 ∧
        view (body first item).1 = view (body second item).1)
    (first second : σ) (agree : view first = view second) :
    (loop body first items).2 = (loop body second items).2 ∧
      view (loop body first items).1 = view (loop body second items).1 := by
  induction items generalizing first second with
  | nil => exact ⟨rfl, agree⟩
  | cons item rest ih =>
      have now := determined first second item List.mem_cons_self agree
      have later := ih (fun first second other member =>
        determined first second other (List.mem_cons_of_mem _ member)) _ _ now.2
      constructor
      · simp only [loop]
        rw [now.1, later.1]
      · exact later.2

/-- A visit reaches its item after the loop passed the items before it. -/
theorem mem_visits_iff (body : σ → α → σ × β) (state : σ) (items : List α) (visit : σ × α) :
    visit ∈ visits body state items ↔
      ∃ before rest, items = before ++ visit.2 :: rest ∧
        visit.1 = (loop body state before).1 := by
  induction items generalizing state with
  | nil => simp [visits]
  | cons item rest ih =>
      rw [visits, List.mem_cons, ih]
      constructor
      · rintro (equal | ⟨before, later, split, reached⟩)
        · exact ⟨[], rest, by rw [equal, List.nil_append], by rw [equal, loop]⟩
        · exact ⟨item :: before, later, by rw [split, List.cons_append], reached⟩
      · rintro ⟨before, later, split, reached⟩
        cases before with
        | nil =>
            rw [List.nil_append, List.cons.injEq] at split
            exact .inl (Prod.ext reached split.1.symm)
        | cons first before =>
            rw [List.cons_append, List.cons.injEq] at split
            refine .inr ⟨before, later, split.2, ?_⟩
            rw [split.1]
            exact reached

theorem mem_visits_item (body : σ → α → σ × β) (state : σ) (items : List α)
    (visit : σ × α) (member : visit ∈ visits body state items) : visit.2 ∈ items := by
  induction items generalizing state with
  | nil => simp [visits] at member
  | cons item rest ih =>
      rw [visits, List.mem_cons] at member
      rcases member with equal | member
      · rw [equal]
        exact List.mem_cons_self
      · exact List.mem_cons_of_mem _ (ih _ member)

/-- A run applies the inputs of a history from the oldest to the newest. -/
def after (step : σ → ι → σ) (initial : σ) : List ι → σ
  | [] => initial
  | input :: earlier => step (after step initial earlier) input

@[simp] theorem after_nil (step : σ → ι → σ) (initial : σ) : after step initial [] = initial := rfl

@[simp] theorem after_cons (step : σ → ι → σ) (initial : σ) (input : ι) (earlier : List ι) :
    after step initial (input :: earlier) = step (after step initial earlier) input := rfl

/-- A run continues from the state that the older part of its history leaves. -/
theorem after_append (step : σ → ι → σ) (initial : σ) (newer older : List ι) :
    after step initial (newer ++ older) = after step (after step initial older) newer := by
  induction newer with
  | nil => rfl
  | cons input newer ih => rw [List.cons_append, after_cons, ih, after_cons]

/-- A run over inputs in their order of arrival is a fold. -/
theorem after_reverse (step : σ → ι → σ) (initial : σ) (inputs : List ι) :
    after step initial inputs.reverse = inputs.foldl step initial := by
  induction inputs generalizing initial with
  | nil => rfl
  | cons input rest ih =>
      rw [List.reverse_cons, after_append, ih, List.foldl_cons]
      rfl

/-- Every input of a guarded history meets the guard in the state that receives it. -/
def Guarded (step : σ → ι → σ) (initial : σ) (guard : σ → ι → Prop) : List ι → Prop
  | [] => True
  | input :: earlier =>
      Guarded step initial guard earlier ∧ guard (after step initial earlier) input

/-- The older part of a guarded history is guarded. -/
theorem Guarded.suffix (step : σ → ι → σ) (initial : σ) (guard : σ → ι → Prop)
    (history part : List ι) (guarded : Guarded step initial guard history)
    (suffix : part <:+ history) : Guarded step initial guard part := by
  induction history with
  | nil =>
      rw [List.suffix_nil.mp suffix]
      trivial
  | cons input earlier ih =>
      rw [List.suffix_cons_iff] at suffix
      rcases suffix with whole | inside
      · rw [whole]
        exact guarded
      · exact ih guarded.1 inside

/-- A property that every guarded step preserves holds after every guarded history. -/
theorem after_invariant (step : σ → ι → σ) (initial : σ) (guard : σ → ι → Prop)
    (property : σ → Prop) (start : property initial)
    (preserved : ∀ state input, guard state input → property state → property (step state input))
    (history : List ι) (guarded : Guarded step initial guard history) :
    property (after step initial history) := by
  induction history with
  | nil => exact start
  | cons input earlier ih => exact preserved _ input guarded.2 (ih guarded.1)

/-- A guarded history is one where the guard holds whenever an input arrives. -/
theorem guarded_iff_forall (step : σ → ι → σ) (initial : σ) (guard : σ → ι → Prop)
    (history : List ι) :
    Guarded step initial guard history ↔ ∀ input earlier, input :: earlier <:+ history →
      guard (after step initial earlier) input := by
  constructor
  · intro guarded input earlier suffix
    exact (guarded.suffix step initial guard history _ suffix).2
  · intro meets
    induction history with
    | nil => trivial
    | cons newest older ih =>
        refine ⟨ih fun input earlier suffix => ?_, meets newest older List.suffix_rfl⟩
        exact meets input earlier (suffix.trans (List.suffix_cons newest older))

/-- A guard that is exact at every step is exact for every history: what holds in each state and at
each step holds throughout exactly if every input meets the guard. -/
theorem guarded_iff (step : σ → ι → σ) (initial : σ) (guard : σ → ι → Prop) (property : σ → Prop)
    (obeys : σ → ι → Prop) (start : property initial)
    (exact : ∀ input earlier, property (after step initial earlier) →
      (property (after step initial (input :: earlier)) ∧
        obeys (after step initial earlier) input ↔ guard (after step initial earlier) input))
    (history : List ι) :
    ((∀ part, part <:+ history → property (after step initial part)) ∧
      ∀ input part, input :: part <:+ history → obeys (after step initial part) input) ↔
        Guarded step initial guard history := by
  constructor
  · intro ⟨holds, rules⟩
    rw [guarded_iff_forall]
    intro input earlier suffix
    have before := holds earlier ((List.suffix_cons input earlier).trans suffix)
    exact (exact input earlier before).mp ⟨holds _ suffix, rules input earlier suffix⟩
  · intro guarded
    have holds (part : List ι) (meets : Guarded step initial guard part) :
        property (after step initial part) := by
      induction part with
      | nil => exact start
      | cons input earlier ih => exact ((exact input earlier (ih meets.1)).mpr meets.2).1
    constructor
    · intro part suffix
      exact holds part (guarded.suffix step initial guard history part suffix)
    · intro input part suffix
      have meets := guarded.suffix step initial guard history _ suffix
      exact ((exact input part (holds part meets.1)).mpr meets.2).2

/-- The same for what holds in each state. -/
theorem guarded_states_iff (step : σ → ι → σ) (initial : σ) (guard : σ → ι → Prop)
    (property : σ → Prop) (start : property initial)
    (exact : ∀ input earlier, property (after step initial earlier) →
      (property (after step initial (input :: earlier)) ↔
        guard (after step initial earlier) input)) (history : List ι) :
    (∀ part, part <:+ history → property (after step initial part)) ↔
      Guarded step initial guard history := by
  rw [← guarded_iff step initial guard property (fun _ _ => True) start
    fun input earlier before => (and_iff_left trivial).trans (exact input earlier before)]
  exact (and_iff_left fun _ _ _ => trivial).symm

/-- A mark in an extended list is the new item, or it splits the old list. -/
theorem concat_eq_split (items before later : List ι) (item mark : ι)
    (split : items ++ [item] = before ++ mark :: later) :
    (later = [] ∧ before = items ∧ mark = item) ∨
      ∃ rest, later = rest ++ [item] ∧ items = before ++ mark :: rest := by
  rcases List.eq_nil_or_concat later with empty | ⟨rest, last, concat⟩
  · rw [empty] at split
    obtain ⟨first, second⟩ := List.append_inj' split rfl
    exact .inl ⟨empty, first.symm, (List.singleton_inj.mp second).symm⟩
  · rw [List.concat_eq_append] at concat
    rw [concat, ← List.cons_append, ← List.append_assoc] at split
    obtain ⟨first, second⟩ := List.append_inj' split rfl
    rw [← List.singleton_inj.mp second] at concat
    exact .inr ⟨rest, concat, first⟩

/-- Every event of a log obeys its rule, given the older part of the log. -/
def Lawful (rule : ι → List ι → Prop) : List ι → Prop
  | [] => True
  | event :: past => rule event past ∧ Lawful rule past

/-- A lawful log obeys the rule at every one of its events. -/
theorem Lawful.at_split (rule : ι → List ι → Prop) (later : List ι) (event : ι) (past : List ι)
    (lawful : Lawful rule (later ++ event :: past)) : rule event past := by
  induction later with
  | nil => exact lawful.1
  | cons newest later ih => exact ih lawful.2

/-- A held span of a history is its newest part up to an item that reaches back far enough. -/
def HeldSpan (held far : ι → Prop) (history : List ι) : Prop :=
  ∃ span first earlier, history = span ++ first :: earlier ∧
    (∀ input ∈ span ++ [first], held input) ∧ far first

/-- A recent lapse is an item that does not hold and precedes no item that reaches back. -/
def RecentLapse (held far : ι → Prop) (history : List ι) : Prop :=
  ∃ span lapse earlier, history = span ++ lapse :: earlier ∧ ¬ held lapse ∧
    ∀ input ∈ span, ¬ far input

theorem heldSpan_cons (held far : ι → Prop) (input : ι) (earlier : List ι) :
    HeldSpan held far (input :: earlier) ↔
      held input ∧ (far input ∨ HeldSpan held far earlier) := by
  constructor
  · intro ⟨span, first, older, split, holds, reach⟩
    cases span with
    | nil =>
        rw [List.nil_append, List.cons.injEq] at split
        rw [split.1]
        exact ⟨holds first (by simp), .inl reach⟩
    | cons newest span =>
        rw [List.cons_append, List.cons.injEq] at split
        rw [split.1]
        refine ⟨holds newest (by simp), .inr ⟨span, first, older, split.2, ?_, reach⟩⟩
        intro item member
        exact holds item (List.mem_cons_of_mem _ member)
  · intro ⟨newest, reach⟩
    rcases reach with reach | ⟨span, first, older, split, holds, reach⟩
    · exact ⟨[], input, earlier, rfl, by simpa using newest, reach⟩
    · refine ⟨input :: span, first, older, by rw [split, List.cons_append], ?_, reach⟩
      intro item member
      rw [List.cons_append, List.mem_cons] at member
      rcases member with equal | member
      · rw [equal]
        exact newest
      · exact holds item member

theorem recentLapse_cons (held far : ι → Prop) (input : ι) (earlier : List ι) :
    RecentLapse held far (input :: earlier) ↔
      ¬ held input ∨ (¬ far input ∧ RecentLapse held far earlier) := by
  constructor
  · intro ⟨span, lapse, older, split, broken, recent⟩
    cases span with
    | nil =>
        rw [List.nil_append, List.cons.injEq] at split
        rw [split.1]
        exact .inl broken
    | cons newest span =>
        rw [List.cons_append, List.cons.injEq] at split
        rw [split.1]
        refine .inr ⟨recent newest (by simp), span, lapse, older, split.2, broken, ?_⟩
        intro item member
        exact recent item (List.mem_cons_of_mem _ member)
  · intro lapsed
    rcases lapsed with broken | ⟨near, span, lapse, older, split, broken, recent⟩
    · exact ⟨[], input, earlier, rfl, broken, by simp⟩
    · refine ⟨input :: span, lapse, older, by rw [split, List.cons_append], broken, ?_⟩
      intro item member
      rw [List.mem_cons] at member
      rcases member with equal | member
      · rw [equal]
        exact near
      · exact recent item member

/-- A history that reaches back far enough has a held span exactly when it has no recent lapse. -/
theorem heldSpan_iff (held far : ι → Prop) (history : List ι)
    (reached : ∃ input ∈ history, far input) :
    HeldSpan held far history ↔ ¬ RecentLapse held far history := by
  induction history with
  | nil => simp at reached
  | cons input earlier ih =>
      rw [heldSpan_cons, recentLapse_cons, not_or, not_not, not_and_or, not_not]
      have tail : ¬ far input → (HeldSpan held far earlier ↔ ¬ RecentLapse held far earlier) := by
        intro near
        apply ih
        obtain ⟨item, member, far⟩ := reached
        rw [List.mem_cons] at member
        rcases member with equal | member
        · exact absurd (equal ▸ far) near
        · exact ⟨item, member, far⟩
      tauto

end Library
