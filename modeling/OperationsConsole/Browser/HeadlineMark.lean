/-
This file embeds the drawing of a run's headline in `dashboard.js`. An unchanged text is not drawn
again, and the critical mark stays true of the newest headline.
-/

import OperationsConsole.Browser.CellMarks

namespace OperationsConsole.Browser

open Library

/-- One part of a headline has a class and a text. A mark is hidden from a screen reader. -/
structure HeadlinePart where
  cls : String
  text : String
  ariaHidden : Bool := false
  deriving DecidableEq

namespace Headline

def critical (headline : Headline) : Bool := headline.state = .crit

def suffix (headline : Headline) : String :=
  match headline.detail with
  | some detail => s!", {detail}"
  | none => ""

/-- A critical headline carries the mark, and the detail follows the text. -/
def headlineParts (headline : Headline) : List HeadlinePart :=
  let mark := if headline.critical then [⟨"mx-crit-text", "◆ ", true⟩] else []
  let cls := if headline.critical then "mx-crit-text" else "mx-headline-text"
  let detail := if headline.detail = none then [] else [⟨"mx-dim", headline.suffix, false⟩]
  mark ++ ⟨cls, headline.text, false⟩ :: detail

end Headline

/-- This is the text of a headline with its detail, or no text. -/
def headlineText (headline : Option Headline) : String :=
  match headline with
  | some headline => headline.text ++ headline.suffix
  | none => ""

/-- This is the element of a pipeline's headline. -/
structure DrawnHeadline where
  hidden : Bool := true
  kind : String := ""
  state : Option HealthState := none
  text : Option String := none
  parts : List HeadlinePart := []

namespace DrawnHeadline

/-- The parts are replaced only if the text changes. -/
def renderHeadline (drawn : DrawnHeadline) (headline : Option Headline) : DrawnHeadline :=
  let told : DrawnHeadline := { drawn with
    hidden := headline.isNone
    kind := (headline.map Headline.kind).getD ""
    state := headline.map Headline.state }
  if drawn.text = some (headlineText headline) then told
  else { told with
    text := some (headlineText headline)
    parts := (headline.map Headline.headlineParts).getD [] }

/-- A page draws a history of headlines, the newest first. -/
def drawnHeadlines : List (Option Headline) → DrawnHeadline
  | [] => {}
  | headline :: earlier => (drawnHeadlines earlier).renderHeadline headline

def marked (drawn : DrawnHeadline) : Bool := drawn.parts.any HeadlinePart.ariaHidden

/-- This is what a screen reader tells of the parts. -/
def told (drawn : DrawnHeadline) : String :=
  String.join ((drawn.parts.filter fun part => !part.ariaHidden).map HeadlinePart.text)

/-- An element shows a headline. -/
structure Shows (headline : Option Headline) (drawn : DrawnHeadline) : Prop where
  hidden : drawn.hidden = headline.isNone
  kind : drawn.kind = (headline.map Headline.kind).getD ""
  state : drawn.state = headline.map Headline.state
  told : drawn.told = headlineText headline
  marked : drawn.marked = headline.any Headline.critical

end DrawnHeadline

section Texts

/-- The first letter of a text is that of the part it starts with. -/
theorem head_append (start rest : String) (letter : Char)
    (first : start.toList.head? = some letter) :
    (start ++ rest).toList.head? = some letter := by
  rw [String.toList_append, List.head?_append, first]
  rfl

/-- The headlines start with one of four letters. -/
def Headline.initial : Headline → Char
  | .cannotFinish _ => 'C'
  | .unavailable _ => 'P'
  | .unknown _ _ => 'F'
  | .loaded => 'L'
  | .finishes _ _ => 'F'

theorem text_head (headline : Headline) :
    headline.text.toList.head? = some headline.initial := by
  cases headline with
  | cannotFinish reasons => exact head_append "Cannot finish: " _ 'C' rfl
  | unavailable missing => exact head_append _ _ 'P' rfl
  | unknown consumerLabel entityLabel =>
      exact head_append _ _ 'F' (head_append _ _ 'F' (head_append _ _ 'F' rfl))
  | loaded => rfl
  | finishes eta consumerLabel => exact head_append _ _ 'F' rfl

/-- Only the text of a critical headline starts with its letter. -/
theorem headlineText_head (headline : Option Headline) :
    (headlineText headline).toList.head? = some 'C' ↔ headline.any Headline.critical = true := by
  cases headline with
  | none => exact iff_of_false (by simp [headlineText]) (by simp)
  | some headline =>
      rw [headlineText, head_append _ _ _ (text_head headline), Option.any_some]
      cases headline <;> simp [Headline.initial, Headline.critical, Headline.state]

/-- Two headlines with one text are both critical or both not. -/
theorem critical_of_text (headline other : Option Headline)
    (same : headlineText headline = headlineText other) :
    headline.any Headline.critical = other.any Headline.critical := by
  rw [Bool.eq_iff_iff, ← headlineText_head, ← headlineText_head, same]

theorem headlineParts_marked (headline : Headline) :
    headline.headlineParts.any HeadlinePart.ariaHidden = headline.critical := by
  unfold Headline.headlineParts
  cases critical : headline.critical <;> cases detail : headline.detail <;> simp

/-- The parts tell the text and the detail. -/
theorem headlineParts_told (headline : Headline) :
    String.join ((headline.headlineParts.filter fun part => !part.ariaHidden).map
      HeadlinePart.text) = headline.text ++ headline.suffix := by
  unfold Headline.headlineParts Headline.suffix
  cases critical : headline.critical <;> cases detail : headline.detail <;> simp [String.join]

end Texts

namespace DrawnHeadline

/-- The parts of an element belong to a headline with its text. -/
def Kept (drawn : DrawnHeadline) : Prop :=
  ∀ text, drawn.text = some text → ∃ headline : Option Headline, text = headlineText headline ∧
    drawn.parts = (headline.map Headline.headlineParts).getD []

theorem kept_renderHeadline (drawn : DrawnHeadline) (kept : drawn.Kept)
    (headline : Option Headline) : (drawn.renderHeadline headline).Kept := by
  unfold renderHeadline
  split
  · exact kept
  · intro text same
    exact ⟨headline, (Option.some.inj same).symm, rfl⟩

theorem kept_drawnHeadlines (headlines : List (Option Headline)) :
    (drawnHeadlines headlines).Kept := by
  induction headlines with
  | nil => exact fun text same => absurd same (by simp [drawnHeadlines])
  | cons headline earlier ih => exact kept_renderHeadline _ ih headline

theorem renderHeadline_text (drawn : DrawnHeadline) (headline : Option Headline) :
    (drawn.renderHeadline headline).text = some (headlineText headline) := by
  unfold renderHeadline
  split
  · rename_i same
    exact same
  · rfl

theorem renderHeadline_attributes (drawn : DrawnHeadline) (headline : Option Headline) :
    (drawn.renderHeadline headline).hidden = headline.isNone ∧
      (drawn.renderHeadline headline).kind = (headline.map Headline.kind).getD "" ∧
      (drawn.renderHeadline headline).state = headline.map Headline.state := by
  unfold renderHeadline
  split <;> exact ⟨rfl, rfl, rfl⟩

/-- After every history the element shows the newest headline. -/
theorem drawnHeadlines_shows (headline : Option Headline) (earlier : List (Option Headline)) :
    (drawnHeadlines (headline :: earlier)).Shows headline := by
  obtain ⟨hidden, kind, state⟩ := renderHeadline_attributes (drawnHeadlines earlier) headline
  obtain ⟨other, same, parts⟩ := kept_drawnHeadlines (headline :: earlier) _
    (renderHeadline_text (drawnHeadlines earlier) headline)
  refine ⟨hidden, kind, state, ?_, ?_⟩
  · rw [same, DrawnHeadline.told, parts]
    cases other with
    | none => rfl
    | some other => exact headlineParts_told other
  · rw [critical_of_text headline other same, marked, parts]
    cases other with
    | none => rfl
    | some other => exact headlineParts_marked other

end DrawnHeadline

section Views

variable (builtins : Builtins) (page : Overview) (pipeline : LayoutPipeline)

/-- The headline of a running run is critical exactly with a reason. -/
theorem headline_critical_iff (error : Option String) (cells : List ProgressCell) :
    (headline true error cells).any Headline.critical = true ↔
      ∃ reason, reason ∈ cells.flatMap ProgressCell.reasons := by
  have kinds (drawn : Headline) : drawn.critical = true ↔ drawn.kind = "cannot-finish" := by
    cases drawn <;> simp [Headline.critical, Headline.state, Headline.kind]
  rw [Option.any_eq_true]
  constructor
  · rintro ⟨drawn, shown, critical⟩
    by_contra none
    have free : cells.flatMap ProgressCell.reasons = [] :=
      List.eq_nil_iff_forall_not_mem.mpr fun reason member => none ⟨reason, member⟩
    exact headline_unblocked error cells drawn free shown ((kinds drawn).mp critical)
  · rintro ⟨reason, member⟩
    obtain ⟨drawn, shown, kind, _⟩ := (headline_reasons error cells reason).mpr member
    exact ⟨drawn, shown, (kinds drawn).mpr kind⟩

/-- The headline of a pipeline carries the mark exactly for a running run with a critical cell,
whatever was drawn before. -/
theorem headline_marked_iff (earlier : List (Option Headline)) :
    (DrawnHeadline.drawnHeadlines (page.runHeadline builtins pipeline :: earlier)).marked = true ↔
      page.running pipeline = true ∧
        ∃ consumer ∈ pipeline.consumers, ∃ entity ∈ pipeline.entityTypes,
          (page.cellModel builtins pipeline consumer entity).state = .crit := by
  rw [(DrawnHeadline.drawnHeadlines_shows _ earlier).marked, Overview.runHeadline]
  cases running : page.running pipeline with
  | false => simp [headline]
  | true =>
      rw [headline_critical_iff]
      constructor
      · rintro ⟨reason, member⟩
        obtain ⟨consumer, bound, entity, typed, kind, marked, _⟩ :=
          (mem_progressReasons_iff builtins page pipeline reason).mp member
        exact ⟨rfl, consumer, bound, entity, typed,
          (state_crit_iff builtins page pipeline consumer entity).mpr ⟨kind, marked⟩⟩
      · rintro ⟨_, consumer, bound, entity, typed, critical⟩
        obtain ⟨kind, marked⟩ := (state_crit_iff builtins page pipeline consumer entity).mp critical
        obtain ⟨text, found⟩ := blocker_of_mark builtins page pipeline consumer entity kind marked
        exact ⟨_, (mem_progressReasons_iff builtins page pipeline _).mpr
          ⟨consumer, bound, entity, typed, kind, marked, text, found, rfl⟩⟩

end Views

end OperationsConsole.Browser
