/-
This file proves when the Overview shows the newest reading after every reading that it applies.
A late reading replaces what a newer one has drawn, and it may delete the history of a queue.
-/

import OperationsConsole.Browser.Overview
import OperationsConsole.Library.InOrder

namespace OperationsConsole.Browser

open Library

def timestamp (reading : Sent LiveReading) : Seconds := reading.value.timestamp

/-- A step applies a reading that arrives after the layout, or the one that waited for it. -/
def Overview.applies (page : Overview) : OverviewInput → Option (Sent LiveReading)
  | .reading reading => if page.layout.isSome then some reading else none
  | .pending => if page.layout.isSome then page.pendingData else none
  | _ => none

section Steps

variable (builtins : Builtins) (page : Overview)

/-- A step draws a reading over what is shown. -/
def Draws (input : OverviewInput) : Prop :=
  ∃ layout reading, page.layout = some layout ∧ page.applies input = some reading ∧
    (page.step builtins input).layout = some layout ∧
    (page.step builtins input).toShown = page.toShown.update builtins layout reading

/-- A step draws nothing. -/
def Keeps (input : OverviewInput) : Prop :=
  page.applies input = none ∧ (page.step builtins input).layout = page.layout ∧
    (page.step builtins input).toShown = page.toShown

/-- A step lays the Overview out, which clears the histories. -/
def LaysOut (input : OverviewInput) : Prop :=
  page.applies input = none ∧ page.layout = none ∧
    (page.step builtins input).layout ≠ none ∧
    (page.step builtins input).toShown = { page.toShown with history := Dict.empty }

theorem reading_cases (reading : Sent LiveReading) :
    Draws builtins page (.reading reading) ∨ Keeps builtins page (.reading reading) := by
  cases laid : page.layout with
  | none =>
      have stepped : page.step builtins (.reading reading) =
          { page with pendingData := some reading } :=
        Overview.updateDashboard_waiting builtins page reading laid
      refine .inr ⟨by simp [Overview.applies, laid], ?_, ?_⟩
      · rw [stepped]
      · rw [stepped]
  | some layout =>
      have stepped : page.step builtins (.reading reading) =
          { page with toShown := page.toShown.update builtins layout reading } :=
        Overview.updateDashboard_drawn builtins page layout reading laid
      refine .inl ⟨layout, reading, laid, by simp [Overview.applies, laid], ?_, ?_⟩
      · rw [stepped]
        exact laid
      · rw [stepped]

theorem topology_cases (layout : Layout) :
    Keeps builtins page (.topology layout) ∨ LaysOut builtins page (.topology layout) := by
  cases laid : page.layout with
  | none =>
      have stepped : page.step builtins (.topology layout) =
          { page with layout := some layout, history := Dict.empty } := by
        change page.renderTopology layout = _
        simp [Overview.renderTopology, laid]
      refine .inr ⟨rfl, laid, ?_, ?_⟩
      · rw [stepped]
        simp
      · rw [stepped]
  | some known =>
      have stepped : page.step builtins (.topology layout) = page := by
        change page.renderTopology layout = _
        simp [Overview.renderTopology, laid]
      exact .inl ⟨rfl, by rw [stepped], by rw [stepped]⟩

theorem pending_cases : Draws builtins page .pending ∨ Keeps builtins page .pending := by
  cases laid : page.layout with
  | none =>
      have stepped : page.step builtins .pending = page :=
        Overview.applyPending_waiting builtins page laid
      refine .inr ⟨by simp [Overview.applies, laid], ?_, ?_⟩
      · rw [stepped]
      · rw [stepped]
  | some layout =>
      cases waits : page.pendingData with
      | none =>
          have stepped : page.step builtins .pending = page :=
            Overview.applyPending_nothing builtins page waits
          refine .inr ⟨by simp [Overview.applies, waits], ?_, ?_⟩
          · rw [stepped]
          · rw [stepped]
      | some reading =>
          have stepped : page.step builtins .pending =
              { page with
                toShown := page.toShown.update builtins layout reading
                pendingData := none } :=
            Overview.applyPending_drawn builtins page layout reading laid waits
          refine .inl ⟨layout, reading, laid, by simp [Overview.applies, laid, waits], ?_, ?_⟩
          · rw [stepped]
            exact laid
          · rw [stepped]

/-- These are the three things that a step can do. -/
theorem step_cases (input : OverviewInput) :
    Draws builtins page input ∨ Keeps builtins page input ∨ LaysOut builtins page input := by
  cases input with
  | reading reading => exact (reading_cases builtins page reading).imp_right .inl
  | topology layout => exact .inr (topology_cases builtins page layout)
  | pending => exact (pending_cases builtins page).imp_right .inl
  | alerts alerts => exact .inr (.inl ⟨rfl, rfl, rfl⟩)
  | runs runs => exact .inr (.inl ⟨rfl, rfl, rfl⟩)
  | progress pipeline numbers => exact .inr (.inl ⟨rfl, rfl, rfl⟩)

end Steps

section Applied

variable (builtins : Builtins)

/-- The readings that the steps of a history apply, the newest application first. -/
def applied : List OverviewInput → List (Sent LiveReading)
  | [] => []
  | input :: earlier =>
      ((overviewAfter builtins earlier).applies input).toList ++ applied earlier

/-- The Overview after readings that are applied to one layout, the newest application first. -/
def shownBy (layout : Layout) (readings : List (Sent LiveReading)) : Shown :=
  after (fun shown reading => shown.update builtins layout reading) {} readings

/-- After each application the Overview shows what it would show without the late readings, and a
late reading changes nothing. -/
structure ShowsNewest (history : List OverviewInput) : Prop where
  shows : ∀ part, part <:+ history → ∀ layout, (overviewAfter builtins part).layout = some layout →
    (overviewAfter builtins part).toShown =
      shownBy builtins layout (punctual timestamp (applied builtins part))
  ignores : ∀ input part, input :: part <:+ history → ∀ reading,
    (overviewAfter builtins part).applies input = some reading →
      Late timestamp reading (applied builtins part) →
        (overviewAfter builtins (input :: part)).toShown = (overviewAfter builtins part).toShown

/-- The layout decides what the readings before it and after it have drawn. -/
structure DrawnBy (history : List OverviewInput) : Prop where
  waiting : (overviewAfter builtins history).layout = none →
    (overviewAfter builtins history).toShown = {} ∧ applied builtins history = []
  drawn : ∀ layout, (overviewAfter builtins history).layout = some layout →
    (overviewAfter builtins history).toShown = shownBy builtins layout (applied builtins history)

/-- What is shown is what the applied readings have drawn, one over the other. -/
theorem drawnBy (history : List OverviewInput) : DrawnBy builtins history := by
  induction history with
  | nil => exact ⟨fun _ => ⟨rfl, rfl⟩, fun layout laid => by simp [overviewAfter] at laid⟩
  | cons input earlier ih =>
      have stepped : overviewAfter builtins (input :: earlier) =
          (overviewAfter builtins earlier).step builtins input := rfl
      rcases step_cases builtins (overviewAfter builtins earlier) input with
        ⟨layout, reading, laid, applies, kept, updated⟩ | ⟨none, kept, same⟩ |
        ⟨none, waits, laid, cleared⟩
      · constructor
        · intro absent
          rw [stepped, kept] at absent
          simp at absent
        · intro other found
          rw [stepped, kept, Option.some.injEq] at found
          rw [stepped, updated, applied, applies, ih.drawn layout laid, ← found]
          rfl
      · rw [← stepped] at kept same
        constructor
        · rw [kept, same, applied, none]
          exact ih.waiting
        · rw [kept, same, applied, none]
          exact ih.drawn
      · have blank := ih.waiting waits
        constructor
        · intro absent
          exact absurd absent laid
        · intro other _
          rw [stepped, cleared, applied, none, blank.1, blank.2]
          rfl

/-- A step that applies a reading finds the layout, and it shows that reading last. -/
theorem applies_spec (part : List OverviewInput) (input : OverviewInput)
    (reading : Sent LiveReading)
    (applies : (overviewAfter builtins part).applies input = some reading) :
    ∃ layout, (overviewAfter builtins part).layout = some layout ∧
      (overviewAfter builtins (input :: part)).layout = some layout ∧
      applied builtins (input :: part) = reading :: applied builtins part := by
  have listed : applied builtins (input :: part) = reading :: applied builtins part := by
    rw [applied, applies]
    rfl
  rcases step_cases builtins (overviewAfter builtins part) input with
    ⟨layout, _, laid, _, kept, _⟩ | ⟨none, _⟩ | ⟨none, _⟩
  · exact ⟨layout, laid, kept, listed⟩
  · simp [none] at applies
  · simp [none] at applies

/-- The older part of a history has applied the older part of its readings. -/
theorem applied_suffix (part history : List OverviewInput) (suffix : part <:+ history) :
    applied builtins part <:+ applied builtins history := by
  induction history with
  | nil =>
      have whole := List.suffix_nil.mp suffix
      exact whole ▸ List.suffix_refl _
  | cons input earlier ih =>
      rcases List.suffix_cons_iff.mp suffix with whole | inside
      · exact whole ▸ List.suffix_refl _
      · exact (ih inside).trans (List.suffix_append _ _)

/-- Every reading of a history was applied by one of its steps. -/
theorem suffix_of_applied (history : List OverviewInput) (reading : Sent LiveReading)
    (older : List (Sent LiveReading))
    (suffix : reading :: older <:+ applied builtins history) :
    ∃ input part, input :: part <:+ history ∧
      (overviewAfter builtins part).applies input = some reading ∧
        applied builtins part = older := by
  induction history with
  | nil => exact absurd (List.suffix_nil.mp suffix) (by simp)
  | cons input earlier ih =>
      have inside (rest : reading :: older <:+ applied builtins earlier) :
          ∃ found part, found :: part <:+ input :: earlier ∧
            (overviewAfter builtins part).applies found = some reading ∧
              applied builtins part = older := by
        obtain ⟨found, part, within, applies, same⟩ := ih rest
        exact ⟨found, part, within.trans (List.suffix_cons input earlier), applies, same⟩
      cases applies : (overviewAfter builtins earlier).applies input with
      | none =>
          rw [applied, applies] at suffix
          exact inside suffix
      | some newest =>
          rw [applied, applies] at suffix
          rcases List.suffix_cons_iff.mp suffix with whole | rest
          · rw [List.cons.injEq] at whole
            exact ⟨input, earlier, List.suffix_refl _, by rw [applies, whole.1], whole.2.symm⟩
          · exact inside rest

/-- The layout stays once it is drawn. -/
theorem layout_stable (part history : List OverviewInput) (suffix : part <:+ history)
    (layout : Layout) (laid : (overviewAfter builtins part).layout = some layout) :
    (overviewAfter builtins history).layout = some layout := by
  induction history with
  | nil =>
      rw [List.suffix_nil.mp suffix] at laid
      exact laid
  | cons input earlier ih =>
      rcases List.suffix_cons_iff.mp suffix with whole | inside
      · rw [← whole]
        exact laid
      · have before := ih inside
        change ((overviewAfter builtins earlier).step builtins input).layout = _
        rcases step_cases builtins (overviewAfter builtins earlier) input with
          ⟨other, _, same, _, kept, _⟩ | ⟨_, kept, _⟩ | ⟨_, waits, _⟩
        · rw [kept, ← same]
          exact before
        · rw [kept]
          exact before
        · rw [waits] at before
          simp at before

/-- An Overview that shows the newest reading takes its readings as a store that does. -/
theorem newestWins_of_showsNewest (history : List OverviewInput) (layout : Layout)
    (laid : (overviewAfter builtins history).layout = some layout)
    (newest : ShowsNewest builtins history) :
    NewestWins timestamp (fun (shown : Shown) reading => shown.update builtins layout reading) {}
      (applied builtins history) where
  shows := by
    intro readings suffix
    cases readings with
    | nil => rfl
    | cons reading older =>
        obtain ⟨input, part, within, applies, same⟩ :=
          suffix_of_applied builtins history reading older suffix
        obtain ⟨known, _, kept, listed⟩ := applies_spec builtins part input reading applies
        have stable := layout_stable builtins _ history within known kept
        rw [laid, Option.some.injEq] at stable
        have drawn := (drawnBy builtins (input :: part)).drawn known kept
        have shown := newest.shows _ within known kept
        rw [drawn, listed, same, ← stable] at shown
        exact shown
  ignores := by
    intro reading older suffix late
    obtain ⟨input, part, within, applies, same⟩ :=
      suffix_of_applied builtins history reading older suffix
    obtain ⟨known, before, kept, listed⟩ := applies_spec builtins part input reading applies
    have stable := layout_stable builtins _ history within known kept
    rw [laid, Option.some.injEq] at stable
    rw [← same] at late
    have unchanged := newest.ignores input part within reading applies late
    rw [(drawnBy builtins (input :: part)).drawn known kept,
      (drawnBy builtins part).drawn known before, listed, same, ← stable] at unchanged
    exact unchanged

/-- The Overview shows the newest reading after every application exactly if every reading that it
applies is at least as new as those it applied before. -/
theorem showsNewest_iff (history : List OverviewInput) :
    ShowsNewest builtins history ↔ InOrder timestamp (applied builtins history) := by
  constructor
  · intro newest
    cases laid : (overviewAfter builtins history).layout with
    | none =>
        rw [((drawnBy builtins history).waiting laid).2]
        exact List.Pairwise.nil
    | some layout =>
        have store := newestWins_of_showsNewest builtins history layout laid newest
        exact (newestWins_iff timestamp _ {} Shown.lastReading (fun _ _ => rfl) _).mp store
  · intro ordered
    constructor
    · intro part suffix layout laid
      have older := ordered.sublist (applied_suffix builtins part history suffix).sublist
      rw [punctual_of_inOrder timestamp _ older]
      exact (drawnBy builtins part).drawn layout laid
    · intro input part suffix reading applies late
      obtain ⟨_, _, _, listed⟩ := applies_spec builtins part input reading applies
      have older := ordered.sublist (applied_suffix builtins _ history suffix).sublist
      rw [listed] at older
      exact absurd late ((not_late_iff timestamp reading _).mpr (List.pairwise_cons.mp older).1)

end Applied

/-- Names without capitals need no text function. -/
def plainText : Builtins := ⟨id, id, id, fun number _ => s!"{number}"⟩

def mastersConfig : PipelineConfig :=
  { producer := "extractor-discogs", consumers := ["graphinator"], queuePrefix := "discogs"
    entityTypes := ["masters"] }

def mastersLayout : Layout :=
  buildTopology plainText ⟨[("discogs", mastersConfig)], List.nodup_singleton _⟩

def mastersReading (time : Seconds) (queues : List QueueInfo) (available : Bool) :
    Sent LiveReading :=
  ⟨0, { pipelines := ⟨[("discogs", { services := [], queues := queues, queuesAvailable := available })],
          List.nodup_singleton _⟩
        timestamp := time }⟩

/-- The first reading over HTTP, of a failed scrape, lands after a newer frame of the socket. -/
def overtakenReading : List OverviewInput :=
  [.reading (mastersReading 1 [] false),
    .reading (mastersReading 2 [⟨"discogs-graphinator-masters", 7, 7, 0, 1, none, none, none⟩] true),
    .topology mastersLayout]

/-- The late reading deletes the history of the queue. -/
theorem showsNewest_fails : ¬ShowsNewest plainText overtakenReading := by
  intro newest
  have unchanged := newest.ignores _ _ List.suffix_rfl (mastersReading 1 [] false) rfl
    ⟨mastersReading 2 [⟨"discogs-graphinator-masters", 7, 7, 0, 1, none, none, none⟩] true,
      List.mem_cons_self, by decide +kernel⟩
  have kept := congrArg
    (fun shown => (shown.history.get? "discogs-graphinator-masters").isSome) unchanged
  revert kept
  decide +kernel

end OperationsConsole.Browser
