/-
This file embeds the history views of `admin.js` with their reads and the shared time range.
A view writes whatever answer arrives, and an error line stays until the next read is sent.
-/

import Mathlib.Data.List.Nodup
import Mathlib.Logic.Function.Basic
import OperationsConsole.Library.Loop

namespace OperationsConsole.Browser

open Library

def historyRanges : List String := ["1h", "6h", "24h", "7d", "30d", "90d"]

inductive HistoryView where
  | queue
  | health
  deriving DecidableEq

namespace HistoryView

def tab : HistoryView → String
  | queue => "queue-trends"
  | health => "system-health"

def loadFailed : HistoryView → String
  | queue => "Failed to load queue history: "
  | health => "Failed to load health history: "

end HistoryView

def historyUnavailable : String :=
  "History unavailable: the metrics store is not answering. Live data on Overview is unaffected."

/-- Only the chart of the queue view has a legend. -/
inductive HistoryPart where
  | tiles
  | chart
  | legend
  | table
  deriving DecidableEq

/-- These strokes draw a view, in order, and each replaces one part. A chart is taken down first. A
body that lists nothing to chart leaves the drawing of the chart before the legend. -/
def HistoryView.strokes {β : Type} (charted : Bool) (content : Option β) :
    HistoryView → List (HistoryPart × Option β)
  | queue =>
      [(.tiles, content), (.chart, none)] ++
        (if charted then [(.legend, content), (.chart, content)] else []) ++ [(.table, content)]
  | health =>
      [(.tiles, content), (.chart, none)] ++
        (if charted then [(.chart, content)] else []) ++ [(.table, content)]

/-- The step of a read orders the run. -/
structure HistoryRead where
  view : HistoryView
  range : String
  sent : Nat
  deriving DecidableEq

/-- A read fails, or it is refused, or it brings a body, which may list something to chart. The
drawing of a body may be rejected after some of its strokes, with a message. -/
inductive HistoryReply (β : Type) where
  | failed (message : String)
  | refused (status : Nat) (detail : Option String)
  | data (body : β) (charted : Bool) (rejected : Option (Nat × String))

/-- What a view shows is written by the answer of a read, at a step of the run. -/
structure Written (α : Type) where
  sent : Nat
  step : Nat
  content : α

/-- A part that is drawn without a body is empty. -/
structure HistoryPanel (β : Type) where
  loading : Bool := false
  error : Option (Written String) := none
  drawn : HistoryPart → Option (Written (Option β)) := fun _ => none

/-- The page holds the stored range, the highlighted range button, the shown tab, both views, and the
reads in flight. The last two fields record every request, the newest first, and the length of the
run. -/
structure HistoryPage (β : Type) where
  stored : Option String := none
  highlighted : String := "24h"
  activeTab : String := "overview"
  panel : HistoryView → HistoryPanel β := fun _ => {}
  reads : List HistoryRead := []
  requests : List HistoryRead := []
  steps : Nat := 0

/-- One step of the operator, of the refresh timer, or of an answer. -/
inductive HistoryInput (β : Type) where
  | select (range : String)
  | tab (name : String)
  | refresh
  | answer (index : Nat) (reply : HistoryReply β)

namespace HistoryPage

variable {β : Type}

section Step

variable (page : HistoryPage β)

def getRange : String :=
  match page.stored with
  | some saved => if saved ∈ historyRanges then saved else "24h"
  | none => "24h"

def syncRangeButtons : HistoryPage β := { page with highlighted := page.getRange }

def setPanel (view : HistoryView) (panel : HistoryPanel β) : HistoryPage β :=
  { page with panel := Function.update page.panel view panel }

/-- This is the first part of `fetchQueueHistory` and of `fetchHealthHistory`. -/
def fetchHistory (view : HistoryView) (range : String) : HistoryPage β :=
  let sent : HistoryRead := ⟨view, range, page.steps⟩
  { page.setPanel view { page.panel view with loading := true, error := none } with
    reads := page.reads ++ [sent]
    requests := sent :: page.requests }

def refreshHistory : HistoryPage β :=
  if page.activeTab = HistoryView.queue.tab then page.fetchHistory .queue page.getRange
  else if page.activeTab = HistoryView.health.tab then page.fetchHistory .health page.getRange
  else page

def showInlineError (read : HistoryRead) (message : String) : HistoryPage β :=
  page.setPanel read.view
    { page.panel read.view with error := some ⟨read.sent, page.steps, message⟩ }

/-- The last stroke of a part stays, and a part without a stroke stays as it was. -/
def draw (read : HistoryRead) (strokes : List (HistoryPart × Option β)) : HistoryPage β :=
  page.setPanel read.view
    { page.panel read.view with
      drawn := fun part =>
        match strokes.reverse.lookup part with
        | some content => some ⟨read.sent, page.steps, content⟩
        | none => (page.panel read.view).drawn part }

/-- A store that is down is named, and an empty body is drawn. -/
def showHistoryUnavailable (read : HistoryRead) : HistoryPage β :=
  (page.showInlineError read historyUnavailable).draw read (read.view.strokes false none)

/-- The second part of a read runs from its answer on. -/
def settle (read : HistoryRead) : HistoryReply β → HistoryPage β
  | .failed message => page.showInlineError read (read.view.loadFailed ++ message)
  | .refused status detail =>
      if status = 401 then page.showInlineError read (read.view.loadFailed ++ "Session expired")
      else if status = 503 then page.showHistoryUnavailable read
      else page.showInlineError read ((detail.filter (· ≠ "")).getD s!"Error {status}")
  | .data body charted none => page.draw read (read.view.strokes charted (some body))
  | .data body charted (some (count, message)) =>
      (page.draw read ((read.view.strokes charted (some body)).take count)).showInlineError read
        (read.view.loadFailed ++ message)

/-- A read hides the spinner at its end. -/
def hideLoading (view : HistoryView) : HistoryPage β :=
  page.setPanel view { page.panel view with loading := false }

def answer (index : Nat) (reply : HistoryReply β) : HistoryPage β :=
  match page.reads[index]? with
  | none => page
  | some read =>
      let answered := { page with reads := page.reads.eraseIdx index }
      (answered.settle read reply).hideLoading read.view

def act : HistoryInput β → HistoryPage β
  | .select range => { page with stored := some range }.syncRangeButtons.refreshHistory
  | .tab name => { page with activeTab := name }.refreshHistory
  | .refresh => page.refreshHistory
  | .answer index reply => page.answer index reply

def step (input : HistoryInput β) : HistoryPage β :=
  { page.act input with steps := page.steps + 1 }

/-- The read of a view that was sent last. -/
def newestRead (view : HistoryView) : Option HistoryRead :=
  page.requests.find? fun read => read.view = view

end Step

end HistoryPage

/-- The page after the steps of a history, the newest first. A range may be stored before. -/
def historyAfter {β : Type} (stored : Option String) (history : List (HistoryInput β)) :
    HistoryPage β :=
  after HistoryPage.step ({ stored := stored : HistoryPage β }.syncRangeButtons) history

/-- A body is drawn whole, without an error. -/
def HistoryReply.whole {β : Type} : HistoryReply β → Bool
  | .data _ _ none => true
  | _ => false

/-- The strokes of an answer in its view. -/
def HistoryReply.strokes {β : Type} (view : HistoryView) :
    HistoryReply β → List (HistoryPart × Option β)
  | .failed _ => []
  | .refused status _ => if status = 503 then view.strokes false none else []
  | .data body charted none => view.strokes charted (some body)
  | .data body charted (some (count, _)) => (view.strokes charted (some body)).take count

/-- The parts that an answer draws anew. -/
def HistoryReply.redrawn {β : Type} (view : HistoryView) (reply : HistoryReply β) :
    List HistoryPart :=
  (reply.strokes view).map Prod.fst

/-- A whole body redraws every part but the legend. -/
theorem redrawn_whole {β : Type} (view : HistoryView) (reply : HistoryReply β)
    (whole : reply.whole = true) (part : HistoryPart) (unlike : part ≠ .legend) :
    part ∈ reply.redrawn view := by
  cases reply with
  | failed message => exact absurd whole Bool.false_ne_true
  | refused status detail => exact absurd whole Bool.false_ne_true
  | data body charted rejected =>
      cases rejected with
      | none =>
          unfold HistoryReply.redrawn HistoryReply.strokes
          cases view <;> cases charted <;> cases part <;>
            first | exact absurd rfl unlike | simp [HistoryView.strokes]
      | some rejection => exact absurd whole Bool.false_ne_true

/-- A part has a last stroke exactly if it is drawn. -/
theorem lookup_strokes_iff {γ : Type} (strokes : List (HistoryPart × γ)) (part : HistoryPart) :
    (∃ content, strokes.reverse.lookup part = some content) ↔ part ∈ strokes.map Prod.fst := by
  rw [← Option.isSome_iff_exists, List.lookup_isSome_iff, List.mem_map]
  simp only [List.mem_reverse, beq_iff_eq]
  exact ⟨fun ⟨stroke, inside, same⟩ => ⟨stroke, inside, same.symm⟩,
    fun ⟨stroke, inside, same⟩ => ⟨stroke, inside, same.symm⟩⟩

namespace HistoryPage

variable {β : Type}

section Facts

variable (page : HistoryPage β)

/-- What is written was written in the past by a read that is answered. -/
structure Settled {α : Type} (written : Written α) : Prop where
  past : written.step < page.steps ∧ written.sent < page.steps
  answered : ∀ read ∈ page.reads, written.sent ≠ read.sent

/-- These facts hold in every run, whatever the answers. -/
structure Kept : Prop where
  flight : ∀ read ∈ page.reads, read ∈ page.requests
  once : page.reads.Nodup
  distinct : ∀ first ∈ page.requests, ∀ second ∈ page.requests, first.sent = second.sent →
    first = second
  past : ∀ read ∈ page.requests, read.sent < page.steps
  error : ∀ view line, (page.panel view).error = some line → page.Settled line
  drawn : ∀ view part drawing, (page.panel view).drawn part = some drawing → page.Settled drawing

/-- The shown view has sent its last read for the stored and highlighted range. -/
structure Selected : Prop where
  highlighted : page.highlighted = page.getRange
  active : ∀ view, page.activeTab = HistoryView.tab view →
    ∃ read, page.newestRead view = some read ∧ read.range = page.getRange

end Facts

section Fetch

variable (page : HistoryPage β)

/-- Every view has its own tab. -/
theorem tab_injective : Function.Injective HistoryView.tab := by
  intro first second same
  cases first <;> cases second <;> first | rfl | exact absurd same (by decide)

theorem overview_hidden (view : HistoryView) : "overview" ≠ view.tab := by
  cases view <;> decide

/-- A refresh sends a read of the shown view, or none of the views is shown. -/
theorem refreshHistory_cases :
    (∃ view, page.activeTab = HistoryView.tab view ∧
      page.refreshHistory = page.fetchHistory view page.getRange) ∨
    ((∀ view, page.activeTab ≠ HistoryView.tab view) ∧ page.refreshHistory = page) := by
  unfold refreshHistory
  by_cases queue : page.activeTab = HistoryView.queue.tab
  · rw [if_pos queue]
    exact .inl ⟨.queue, queue, rfl⟩
  · rw [if_neg queue]
    by_cases health : page.activeTab = HistoryView.health.tab
    · rw [if_pos health]
      exact .inl ⟨.health, health, rfl⟩
    · rw [if_neg health]
      refine .inr ⟨?_, rfl⟩
      intro view
      cases view with
      | queue => exact queue
      | health => exact health

/-- A new read is the newest one of its view. -/
theorem newestRead_fetchHistory (view : HistoryView) (range : String) :
    (page.fetchHistory view range).newestRead view = some ⟨view, range, page.steps⟩ := by
  unfold newestRead fetchHistory
  exact List.find?_cons_of_pos (by simp)

/-- A read that is sent hides the error line of its view and leaves the rest as it is. -/
theorem panel_fetchHistory (view other : HistoryView) (range : String) :
    ((page.fetchHistory view range).panel other).drawn = (page.panel other).drawn ∧
      ∀ line, ((page.fetchHistory view range).panel other).error = some line →
        (page.panel other).error = some line := by
  change (Function.update page.panel view _ other).drawn = _ ∧
    ∀ line, (Function.update page.panel view _ other).error = some line → _
  by_cases same : other = view
  · rw [same, Function.update_self]
    refine ⟨rfl, ?_⟩
    intro line shown
    exact absurd shown (by simp)
  · rw [Function.update_of_ne same]
    exact ⟨rfl, fun _ shown => shown⟩

variable (kept : page.Kept)

include kept

/-- A step that changes neither the views nor the reads keeps the facts of a run. -/
theorem kept_idle (later : HistoryPage β) (panel : later.panel = page.panel)
    (reads : later.reads = page.reads) (requests : later.requests = page.requests)
    (steps : page.steps ≤ later.steps) : later.Kept := by
  have settled : ∀ {α : Type} (written : Written α), page.Settled written →
      later.Settled written := by
    intro α written before
    constructor
    · exact ⟨Nat.lt_of_lt_of_le before.past.1 steps, Nat.lt_of_lt_of_le before.past.2 steps⟩
    · rw [reads]
      exact before.answered
  constructor
  · rw [reads, requests]
    exact kept.flight
  · rw [reads]
    exact kept.once
  · rw [requests]
    exact kept.distinct
  · rw [requests]
    exact fun read member => Nat.lt_of_lt_of_le (kept.past read member) steps
  · rw [panel]
    exact fun view line shown => settled line (kept.error view line shown)
  · rw [panel]
    exact fun view part drawing shown => settled drawing (kept.drawn view part drawing shown)

/-- A step that sends a read keeps the facts of a run. -/
theorem kept_fetchHistory (view : HistoryView) (range : String) :
    Kept { page.fetchHistory view range with steps := page.steps + 1 } := by
  let sent : HistoryRead := ⟨view, range, page.steps⟩
  have unsent : sent ∉ page.requests := by
    intro member
    exact absurd (kept.past sent member) (Nat.lt_irrefl _)
  have settled : ∀ {α : Type} (written : Written α), page.Settled written →
      Settled { page.fetchHistory view range with steps := page.steps + 1 } written := by
    intro α written before
    constructor
    · exact ⟨Nat.lt_succ_of_lt before.past.1, Nat.lt_succ_of_lt before.past.2⟩
    · intro read member
      rcases List.mem_append.mp member with old | fresh
      · exact before.answered read old
      · rw [List.mem_singleton.mp fresh]
        exact Nat.ne_of_lt before.past.2
  constructor
  · intro read member
    rcases List.mem_append.mp member with old | fresh
    · exact List.mem_cons_of_mem _ (kept.flight read old)
    · rw [List.mem_singleton.mp fresh]
      exact List.mem_cons_self
  · change (page.reads ++ [sent]).Nodup
    rw [List.nodup_append]
    refine ⟨kept.once, List.pairwise_singleton _ _, ?_⟩
    intro first old second fresh same
    rw [List.mem_singleton] at fresh
    exact unsent (kept.flight _ (fresh ▸ same ▸ old))
  · intro first one second two same
    rcases List.mem_cons.mp one with fresh | old <;> rcases List.mem_cons.mp two with new | older
    · rw [fresh, new]
    · rw [fresh] at same
      exact absurd same (Nat.ne_of_gt (kept.past second older))
    · rw [new] at same
      exact absurd same (Nat.ne_of_lt (kept.past first old))
    · exact kept.distinct first old second older same
  · intro read member
    rcases List.mem_cons.mp member with fresh | old
    · rw [fresh]
      exact Nat.lt_succ_self _
    · exact Nat.lt_succ_of_lt (kept.past read old)
  · intro other line shown
    exact settled line (kept.error other line ((panel_fetchHistory page view other range).2 line
      shown))
  · intro other part drawing shown
    change ((page.fetchHistory view range).panel other).drawn part = some drawing at shown
    rw [(panel_fetchHistory page view other range).1] at shown
    exact settled drawing (kept.drawn other part drawing shown)

end Fetch

section Refresh

variable (page : HistoryPage β)

/-- A refresh keeps the facts of a run. -/
theorem kept_refreshHistory (kept : page.Kept) :
    Kept { page.refreshHistory with steps := page.steps + 1 } := by
  rcases refreshHistory_cases page with ⟨view, shown, sent⟩ | ⟨_, same⟩
  · rw [sent]
    exact kept_fetchHistory page kept view page.getRange
  · rw [same]
    exact kept_idle page kept _ rfl rfl rfl (Nat.le_succ _)

/-- After a refresh the newest read of the shown view is for the stored range and in flight. -/
theorem refreshHistory_shown (view : HistoryView) (shown : page.activeTab = view.tab) :
    ∃ read, page.refreshHistory.newestRead view = some read ∧ read.range = page.getRange ∧
      read ∈ page.refreshHistory.reads := by
  rcases refreshHistory_cases page with ⟨other, tab, sent⟩ | ⟨hidden, _⟩
  · have same : other = view := tab_injective (tab.symm.trans shown)
    rw [sent, same]
    exact ⟨_, newestRead_fetchHistory page view page.getRange, rfl,
      List.mem_append_right _ List.mem_cons_self⟩
  · exact absurd shown (hidden view)

/-- A refresh changes neither the tab nor the range. -/
theorem refreshHistory_kept : page.refreshHistory.activeTab = page.activeTab ∧
    page.refreshHistory.stored = page.stored ∧
      page.refreshHistory.highlighted = page.highlighted := by
  rcases refreshHistory_cases page with ⟨view, _, sent⟩ | ⟨_, same⟩
  · rw [sent]
    exact ⟨rfl, rfl, rfl⟩
  · rw [same]
    exact ⟨rfl, rfl, rfl⟩

/-- After a refresh the shown view waits for the stored range. -/
theorem selected_refreshHistory (highlighted : page.highlighted = page.getRange) :
    Selected { page.refreshHistory with steps := page.steps + 1 } := by
  obtain ⟨tab, stored, button⟩ := refreshHistory_kept page
  have range : page.refreshHistory.getRange = page.getRange := by
    unfold getRange
    rw [stored]
  constructor
  · exact button.trans (highlighted.trans range.symm)
  · intro view shown
    obtain ⟨read, newest, asked, _⟩ := refreshHistory_shown page view (tab.symm.trans shown)
    exact ⟨read, newest, asked.trans range.symm⟩

end Refresh

section Answers

variable (page : HistoryPage β)

/-- An answer writes an error line unless it brings a whole body, and it redraws some parts. -/
structure Answers (later : HistoryPage β) (read : HistoryRead) (reply : HistoryReply β) : Prop where
  error : ∃ message, (later.panel read.view).error =
    if reply.whole = true then (page.panel read.view).error
    else some ⟨read.sent, page.steps, message⟩
  drawn : ∀ part ∈ reply.redrawn read.view, ∃ content,
    (later.panel read.view).drawn part = some ⟨read.sent, page.steps, content⟩
  left : ∀ part ∉ reply.redrawn read.view,
    (later.panel read.view).drawn part = (page.panel read.view).drawn part
  other : ∀ view ≠ read.view, later.panel view = page.panel view
  kept : later.reads = page.reads ∧ later.requests = page.requests ∧
    later.activeTab = page.activeTab ∧ later.stored = page.stored ∧
      later.highlighted = page.highlighted

/-- An error is written beside the parts that are drawn. -/
theorem showInlineError_panel (read : HistoryRead) (message : String) :
    ((page.showInlineError read message).panel read.view).error =
        some ⟨read.sent, page.steps, message⟩ ∧
      ((page.showInlineError read message).panel read.view).drawn =
        (page.panel read.view).drawn := by
  have own : (page.showInlineError read message).panel read.view =
      { page.panel read.view with error := some ⟨read.sent, page.steps, message⟩ } :=
    Function.update_self _ _ _
  rw [own]
  exact ⟨rfl, rfl⟩

/-- A drawing writes the parts with a stroke and leaves the rest of its view. -/
theorem draw_panel (read : HistoryRead) (strokes : List (HistoryPart × Option β)) :
    ((page.draw read strokes).panel read.view).error = (page.panel read.view).error ∧
      (∀ part ∈ strokes.map Prod.fst, ∃ content,
        ((page.draw read strokes).panel read.view).drawn part =
          some ⟨read.sent, page.steps, content⟩) ∧
      ∀ part ∉ strokes.map Prod.fst,
        ((page.draw read strokes).panel read.view).drawn part =
          (page.panel read.view).drawn part := by
  have own : (page.draw read strokes).panel read.view =
      { page.panel read.view with
        drawn := fun part =>
          match strokes.reverse.lookup part with
          | some content => some ⟨read.sent, page.steps, content⟩
          | none => (page.panel read.view).drawn part } :=
    Function.update_self _ _ _
  rw [own]
  refine ⟨rfl, ?_, ?_⟩
  · intro part inside
    obtain ⟨content, stroke⟩ := (lookup_strokes_iff strokes part).mpr inside
    exact ⟨content, by simp only [stroke]⟩
  · intro part outside
    cases stroke : strokes.reverse.lookup part with
    | none => simp only [stroke]
    | some content => exact absurd ((lookup_strokes_iff strokes part).mp ⟨content, stroke⟩) outside

/-- A panel leaves the other view alone. -/
theorem other_setPanel (view other : HistoryView) (panel : HistoryPanel β) (differs : other ≠ view) :
    (page.setPanel view panel).panel other = page.panel other := Function.update_of_ne differs _ _

/-- Every answer of a read is settled in this form. -/
theorem settle_answers (read : HistoryRead) (reply : HistoryReply β) :
    page.Answers (page.settle read reply) read reply := by
  have failed : ∀ message, reply.whole = false → reply.strokes read.view = [] →
      page.Answers (page.showInlineError read message) read reply := by
    intro message partly none_drawn
    have line := showInlineError_panel page read message
    refine ⟨⟨message, ?_⟩, ?_, ?_, ?_, rfl, rfl, rfl, rfl, rfl⟩
    · rw [partly]
      exact line.1
    · intro part inside
      rw [HistoryReply.redrawn, none_drawn] at inside
      exact absurd inside List.not_mem_nil
    · exact fun part _ => congrFun line.2 part
    · exact fun view differs => other_setPanel page read.view view _ differs
  cases reply with
  | failed message => exact failed _ rfl rfl
  | refused status detail =>
      unfold settle
      dsimp only
      by_cases expired : status = 401
      · rw [if_pos expired]
        exact failed _ rfl (if_neg (by omega))
      · rw [if_neg expired]
        by_cases unavailable : status = 503
        · rw [if_pos unavailable]
          have line := showInlineError_panel page read historyUnavailable
          obtain ⟨error, drawn, left⟩ := draw_panel (page.showInlineError read historyUnavailable)
            read (read.view.strokes false none)
          have strokes : HistoryReply.strokes read.view (.refused status detail : HistoryReply β) =
              read.view.strokes false none := if_pos unavailable
          refine ⟨⟨historyUnavailable, error.trans line.1⟩, ?_, ?_, ?_, rfl, rfl, rfl, rfl, rfl⟩
          · rw [HistoryReply.redrawn, strokes]
            exact drawn
          · rw [HistoryReply.redrawn, strokes]
            exact fun part outside => (left part outside).trans (congrFun line.2 part)
          · intro view differs
            exact (other_setPanel _ read.view view _ differs).trans
              (other_setPanel page read.view view _ differs)
        · rw [if_neg unavailable]
          exact failed _ rfl (if_neg unavailable)
  | data body charted rejected =>
      cases rejected with
      | none =>
          obtain ⟨error, drawn, left⟩ :=
            draw_panel page read (read.view.strokes charted (some body))
          refine ⟨⟨"", error⟩, drawn, left, ?_, rfl, rfl, rfl, rfl, rfl⟩
          exact fun view differs => other_setPanel page read.view view _ differs
      | some rejection =>
          obtain ⟨count, message⟩ := rejection
          let strokes := (read.view.strokes charted (some body)).take count
          obtain ⟨_, drawn, left⟩ := draw_panel page read strokes
          have line := showInlineError_panel (page.draw read strokes) read
            (read.view.loadFailed ++ message)
          refine ⟨⟨_, line.1⟩, ?_, ?_, ?_, rfl, rfl, rfl, rfl, rfl⟩
          · intro part inside
            obtain ⟨content, stroke⟩ := drawn part inside
            exact ⟨content, (congrFun line.2 part).trans stroke⟩
          · exact fun part outside => (congrFun line.2 part).trans (left part outside)
          · intro view differs
            exact (other_setPanel _ read.view view _ differs).trans
              (other_setPanel page read.view view _ differs)

/-- The spinner is not part of what a read shows. -/
theorem hideLoading_answers (later : HistoryPage β) (read : HistoryRead) (reply : HistoryReply β)
    (answers : page.Answers later read reply) :
    page.Answers (later.hideLoading read.view) read reply := by
  have own : (later.hideLoading read.view).panel read.view =
      { later.panel read.view with loading := false } := Function.update_self _ _ _
  refine ⟨?_, ?_, ?_, ?_, answers.kept⟩
  · rw [own]
    exact answers.error
  · rw [own]
    exact answers.drawn
  · rw [own]
    exact answers.left
  · intro view differs
    exact (other_setPanel later read.view view _ differs).trans (answers.other view differs)

end Answers

section Answered

variable (page : HistoryPage β) (kept : page.Kept) (index : Nat) (read : HistoryRead)
  (reply : HistoryReply β) (found : page.reads[index]? = some read) (later : HistoryPage β)
  (answers : Answers { page with reads := page.reads.eraseIdx index } later read reply)

include kept found answers

/-- An answered read leaves the flight, and no other read does. -/
theorem answered_flight (other : HistoryRead) :
    other ∈ later.reads ↔ other ∈ page.reads ∧ other ≠ read := by
  rw [answers.kept.1, List.mem_eraseIdx_iff_getElem?]
  constructor
  · rintro ⟨place, differs, inside⟩
    refine ⟨List.mem_of_getElem? inside, ?_⟩
    intro same
    obtain ⟨bound, one⟩ := List.getElem?_eq_some_iff.mp inside
    obtain ⟨within, two⟩ := List.getElem?_eq_some_iff.mp found
    exact differs (kept.once.getElem_inj_iff.mp ((one.trans same).trans two.symm))
  · rintro ⟨member, differs⟩
    obtain ⟨place, inside⟩ := List.mem_iff_getElem?.mp member
    refine ⟨place, ?_, inside⟩
    intro same
    rw [same, found, Option.some.injEq] at inside
    exact differs inside.symm

/-- What was settled before an answer stays settled. -/
theorem settled_after {α : Type} (written : Written α) (before : page.Settled written) :
    Settled { later with steps := page.steps + 1 } written := by
  constructor
  · exact ⟨Nat.lt_succ_of_lt before.past.1, Nat.lt_succ_of_lt before.past.2⟩
  · intro other inside
    have flight := (answered_flight page kept index read reply found later answers other).mp inside
    exact before.answered other flight.1

/-- What an answer writes is settled after the step. -/
theorem settled_written {α : Type} (content : α) :
    Settled { later with steps := page.steps + 1 } ⟨read.sent, page.steps, content⟩ := by
  have asked := kept.flight read (List.mem_of_getElem? found)
  constructor
  · exact ⟨Nat.lt_succ_self _, Nat.lt_succ_of_lt (kept.past read asked)⟩
  · intro other inside same
    obtain ⟨old, differs⟩ :=
      (answered_flight page kept index read reply found later answers other).mp inside
    exact differs (kept.distinct other (kept.flight other old) read asked same.symm)

/-- The error that a step leaves is settled by a read. -/
theorem settled_error (view : HistoryView) (line : Written String)
    (shown : (later.panel view).error = some line) :
    Settled { later with steps := page.steps + 1 } line := by
  have stays := settled_after page kept index read reply found later answers line
  by_cases same : view = read.view
  · obtain ⟨message, error⟩ := answers.error
    rw [same, error] at shown
    split at shown
    · exact stays (kept.error read.view line shown)
    · rw [← Option.some.inj shown]
      exact settled_written page kept index read reply found later answers message
  · rw [answers.other view same] at shown
    exact stays (kept.error view line shown)

/-- The drawing that a step leaves is settled by a read. -/
theorem settled_drawn (view : HistoryView) (part : HistoryPart) (drawing : Written (Option β))
    (shown : (later.panel view).drawn part = some drawing) :
    Settled { later with steps := page.steps + 1 } drawing := by
  have stays := settled_after page kept index read reply found later answers drawing
  by_cases same : view = read.view
  · rw [same] at shown
    by_cases inside : part ∈ reply.redrawn read.view
    · obtain ⟨content, drawn⟩ := answers.drawn part inside
      rw [drawn] at shown
      rw [← Option.some.inj shown]
      exact settled_written page kept index read reply found later answers content
    · rw [answers.left part inside] at shown
      exact stays (kept.drawn read.view part drawing shown)
  · rw [answers.other view same] at shown
    exact stays (kept.drawn view part drawing shown)

theorem kept_answers : Kept { later with steps := page.steps + 1 } := by
  obtain ⟨reads, requests, _⟩ := answers.kept
  constructor
  · intro other inside
    change other ∈ later.requests
    rw [requests]
    have flight := (answered_flight page kept index read reply found later answers other).mp inside
    exact kept.flight other flight.1
  · change later.reads.Nodup
    rw [reads]
    exact kept.once.sublist (List.eraseIdx_sublist _ _)
  · change ∀ first ∈ later.requests, ∀ second ∈ later.requests, _
    rw [requests]
    exact kept.distinct
  · change ∀ other ∈ later.requests, other.sent < page.steps + 1
    rw [requests]
    exact fun other asked => Nat.lt_succ_of_lt (kept.past other asked)
  · exact settled_error page kept index read reply found later answers
  · exact settled_drawn page kept index read reply found later answers

end Answered

section Runs

variable (page : HistoryPage β)

/-- Every step keeps the facts of a run and the selected range. -/
theorem kept_step (kept : page.Kept) (selected : page.Selected) (input : HistoryInput β) :
    (page.step input).Kept ∧ (page.step input).Selected := by
  cases input with
  | select range =>
      let chosen : HistoryPage β := { page with stored := some range }.syncRangeButtons
      have same : chosen.Kept := kept_idle page kept _ rfl rfl rfl (Nat.le_refl _)
      exact ⟨kept_refreshHistory chosen same, selected_refreshHistory chosen rfl⟩
  | tab name =>
      let shown : HistoryPage β := { page with activeTab := name }
      have same : shown.Kept := kept_idle page kept _ rfl rfl rfl (Nat.le_refl _)
      exact ⟨kept_refreshHistory shown same, selected_refreshHistory shown selected.highlighted⟩
  | refresh =>
      exact ⟨kept_refreshHistory page kept, selected_refreshHistory page selected.highlighted⟩
  | answer index reply =>
      change Kept { page.answer index reply with steps := page.steps + 1 } ∧
        Selected { page.answer index reply with steps := page.steps + 1 }
      unfold answer
      cases found : page.reads[index]? with
      | none =>
          exact ⟨kept_idle page kept _ rfl rfl rfl (Nat.le_succ _),
            ⟨selected.highlighted, selected.active⟩⟩
      | some read =>
          have answers := hideLoading_answers _ _ read reply
            (settle_answers { page with reads := page.reads.eraseIdx index } read reply)
          obtain ⟨reads, requests, tab, stored, button⟩ := answers.kept
          refine ⟨kept_answers page kept index read reply found _ answers, ?_⟩
          dsimp only at reads requests tab stored button ⊢
          constructor
          · unfold getRange
            rw [stored, button]
            exact selected.highlighted
          · intro view shown
            unfold newestRead getRange
            rw [requests, stored]
            exact selected.active view (tab.symm.trans shown)

/-- After every history what is shown was written by reads of the shown range. -/
theorem historyAfter_kept (stored : Option String) (history : List (HistoryInput β)) :
    (historyAfter stored history).Kept ∧ (historyAfter stored history).Selected := by
  induction history with
  | nil =>
      constructor
      · constructor <;> simp [historyAfter, syncRangeButtons]
      · refine ⟨rfl, ?_⟩
        exact fun view shown => absurd shown (overview_hidden view)
  | cons input earlier ih => exact kept_step _ ih.1 ih.2 input

end Runs

end HistoryPage

end OperationsConsole.Browser
