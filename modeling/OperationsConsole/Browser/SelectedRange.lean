/-
This file decides in which runs the history views show the range that is selected.
A slow answer of an earlier range is written over a newer one, and so is the line of its error.
-/

import OperationsConsole.Browser.HistoryViews

namespace OperationsConsole.Browser

open Library

namespace HistoryPage

variable {β : Type}

section Law

variable (left : Bool) (page : HistoryPage β)

/-- What a view shows is what a read brought. The flag tells whether parts may be left over that
were drawn before the error line. -/
structure Shows (panel : HistoryPanel β) (read : HistoryRead) : Prop where
  error : ∀ line, panel.error = some line → line.sent = read.sent
  drawn : ∀ part drawing, panel.drawn part = some drawing → drawing.sent = read.sent ∨
    (left = true ∧ ∃ line, panel.error = some line ∧ drawing.step < line.step)
  brought : panel.error.isSome = true ∨ ∀ part ≠ .legend, (panel.drawn part).isSome = true

/-- The shown view has sent its last read for the stored and highlighted range, and it shows that
read when it has been answered. -/
structure ShowsSelected : Prop where
  highlighted : page.highlighted = page.getRange
  shown : ∀ view, page.activeTab = HistoryView.tab view →
    ∃ read, page.newestRead view = some read ∧ read.range = page.getRange ∧
      (read ∉ page.reads → Shows left (page.panel view) read)

/-- An answer suits the newest read of the shown view: it redraws every part that is drawn, or it
writes an error line under which parts may be left over, and a body finds no error line. -/
def Suits (view : HistoryView) (panel : HistoryPanel β) (reply : HistoryReply β) : Prop :=
  (reply.whole = true → panel.error = none) ∧
    ((left = true ∧ reply.whole = false) ∨
      ∀ part ∉ reply.redrawn view, panel.drawn part = none)

/-- A superseded answer of the shown view comes before the answer of the newest read, and the answer
of the newest read suits. -/
def InTurn : HistoryInput β → Prop
  | .answer index reply => ∀ read, page.reads[index]? = some read →
      page.activeTab = read.view.tab → ∀ newest, page.newestRead read.view = some newest →
        if newest = read then Suits left read.view (page.panel read.view) reply
        else newest ∈ page.reads
  | _ => True

end Law

section Exact

variable (left : Bool) (page : HistoryPage β) (kept : page.Kept) (index : Nat) (read : HistoryRead)
  (reply : HistoryReply β) (found : page.reads[index]? = some read) (later : HistoryPage β)
  (answers : Answers { page with reads := page.reads.eraseIdx index } later read reply)

include kept found answers

/-- A part that an answer does not redraw is shown as left over, or it was not drawn. -/
theorem left_part (part : HistoryPart) (stays : part ∉ reply.redrawn read.view)
    (shows : Shows left (later.panel read.view) read) :
    (left = true ∧ ∃ line, (later.panel read.view).error = some line ∧
      ∀ drawing, (page.panel read.view).drawn part = some drawing → drawing.step < line.step) ∨
      (page.panel read.view).drawn part = none := by
  cases before : (page.panel read.view).drawn part with
  | none => exact .inr rfl
  | some drawing =>
      have flight := List.mem_of_getElem? found
      have shown : (later.panel read.view).drawn part = some drawing :=
        (answers.left part stays).trans before
      rcases shows.drawn part drawing shown with own | ⟨allowed, line, above, earlier⟩
      · exact absurd own ((kept.drawn read.view part drawing before).answered read flight)
      · refine .inl ⟨allowed, line, above, ?_⟩
        intro other same
        rw [← Option.some.inj same]
        exact earlier

/-- A body leaves the error line, so it is shown exactly if there is none, and if the legend is
redrawn or was not drawn. -/
theorem shows_whole_iff (whole : reply.whole = true) :
    Shows left (later.panel read.view) read ↔ (page.panel read.view).error = none ∧
      ∀ part ∉ reply.redrawn read.view, (page.panel read.view).drawn part = none := by
  have flight := List.mem_of_getElem? found
  have all := redrawn_whole read.view reply whole
  obtain ⟨message, error⟩ := answers.error
  change _ = if reply.whole = true then (page.panel read.view).error else _ at error
  rw [if_pos whole] at error
  constructor
  · intro shows
    have clear : (page.panel read.view).error = none := by
      cases line : (page.panel read.view).error with
      | none => rfl
      | some line' =>
          have own := shows.error line' (error.trans line)
          exact absurd own ((kept.error read.view line' line).answered read flight)
    refine ⟨clear, fun part stays => ?_⟩
    rcases left_part left page kept index read reply found later answers part stays shows with
      ⟨_, line, above, _⟩ | nothing
    · rw [error, clear] at above
      exact absurd above (by simp)
    · exact nothing
  · rintro ⟨clear, nothing⟩
    constructor
    · intro line shown
      rw [error, clear] at shown
      exact absurd shown (by simp)
    · intro part drawing shown
      by_cases inside : part ∈ reply.redrawn read.view
      · obtain ⟨content, drawn⟩ := answers.drawn part inside
        rw [drawn] at shown
        rw [← Option.some.inj shown]
        exact .inl rfl
      · have before := (answers.left part inside).trans (nothing part inside)
        rw [before] at shown
        exact absurd shown (by simp)
    · refine .inr fun part unlike => ?_
      obtain ⟨content, drawn⟩ := answers.drawn part (all part unlike)
      rw [drawn]
      rfl

/-- Another answer draws the line of its error and keeps the parts it does not redraw. -/
theorem shows_line_iff (whole : ¬ reply.whole = true) :
    Shows left (later.panel read.view) read ↔
      left = true ∨ ∀ part ∉ reply.redrawn read.view, (page.panel read.view).drawn part = none := by
  obtain ⟨message, error⟩ := answers.error
  change _ = if reply.whole = true then (page.panel read.view).error else _ at error
  rw [if_neg whole] at error
  constructor
  · intro shows
    by_cases allowed : left = true
    · exact .inl allowed
    · refine .inr fun part stays => ?_
      rcases left_part left page kept index read reply found later answers part stays shows with
        ⟨over_left, _⟩ | nothing
      · exact absurd over_left allowed
      · exact nothing
  · intro suits
    constructor
    · intro line shown
      rw [error, Option.some.injEq] at shown
      rw [← shown]
    · intro part drawing shown
      by_cases inside : part ∈ reply.redrawn read.view
      · obtain ⟨content, drawn⟩ := answers.drawn part inside
        rw [drawn] at shown
        rw [← Option.some.inj shown]
        exact .inl rfl
      · rw [answers.left part inside] at shown
        rcases suits with allowed | none_drawn
        · refine .inr ⟨allowed, _, error, ?_⟩
          exact (kept.drawn read.view part drawing shown).past.1
        · have nothing := none_drawn part inside
          exact absurd (shown.symm.trans nothing) (by simp)
    · rw [error]
      exact .inl rfl

/-- The answer of the newest read is shown exactly if it suits. -/
theorem shows_newest_iff :
    Shows left (later.panel read.view) read ↔ Suits left read.view (page.panel read.view) reply := by
  unfold Suits
  by_cases whole : reply.whole = true
  · rw [shows_whole_iff left page kept index read reply found later answers whole]
    simp only [whole, true_implies, Bool.true_eq_false, and_false, false_or]
  · rw [shows_line_iff left page kept index read reply found later answers whole]
    rw [Bool.not_eq_true] at whole
    simp only [whole, Bool.false_eq_true, false_implies, and_true, true_and]

/-- A superseded answer is written over what the newest read showed. -/
theorem shows_superseded (newest : HistoryRead) (asked : newest ∈ page.requests)
    (differs : newest ≠ read) : ¬ Shows left (later.panel read.view) newest := by
  intro shows
  have flight := List.mem_of_getElem? found
  have unlike : read.sent ≠ newest.sent := by
    intro same
    exact differs (kept.distinct newest asked read (kept.flight read flight) same.symm)
  obtain ⟨message, error⟩ := answers.error
  change _ = if reply.whole = true then (page.panel read.view).error else _ at error
  by_cases whole : reply.whole = true
  · rw [if_pos whole] at error
    obtain ⟨content, shown⟩ := answers.drawn .tiles
      (redrawn_whole read.view reply whole .tiles (by decide))
    rcases shows.drawn .tiles _ shown with own | ⟨_, line, above, earlier⟩
    · exact unlike own
    · have past := (kept.error read.view line (error.symm.trans above)).past.1
      exact absurd past (Nat.not_lt_of_lt earlier)
  · rw [if_neg whole] at error
    exact unlike (shows.error _ error)

omit kept found in
/-- An answer changes neither the stored range nor what has been asked. -/
theorem answers_getRange : later.getRange = page.getRange := by
  obtain ⟨_, _, _, stored, _⟩ := answers.kept
  unfold getRange
  rw [stored]

omit kept found in
theorem answers_newestRead : later.newestRead = page.newestRead := by
  obtain ⟨_, requests, _, _, _⟩ := answers.kept
  unfold HistoryPage.newestRead
  rw [requests]

/-- If the selected range is shown after an answer, the answer came in turn. -/
theorem inTurn_of_showsSelected
    (shows : ShowsSelected left { later with steps := page.steps + 1 }) :
    page.InTurn left (.answer index reply) := by
  obtain ⟨_, _, tab, _, _⟩ := answers.kept
  intro other again shown newest asked
  rw [found, Option.some.injEq] at again
  subst again
  obtain ⟨newer, same, _, landed⟩ := shows.shown read.view (tab.trans shown)
  have equal : newer = newest := by
    have both : later.newestRead read.view = some newer := same
    rw [answers_newestRead page index read reply later answers, asked,
      Option.some.injEq] at both
    exact both.symm
  rw [equal] at landed
  by_cases own : newest = read
  · rw [if_pos own]
    rw [own] at landed
    apply (shows_newest_iff left page kept index read reply found later answers).mp
    apply landed
    intro inside
    exact ((answered_flight page kept index read reply found later answers read).mp inside).2 rfl
  · rw [if_neg own]
    by_contra absent
    have wrote := landed fun inside => absent
      ((answered_flight page kept index read reply found later answers newest).mp inside).1
    exact shows_superseded left page kept index read reply found later answers newest
      (List.mem_of_find?_eq_some asked) own wrote

/-- After an answer that came in turn, the newest read of the shown view is shown once landed. -/
theorem shows_of_inTurn (before : page.ShowsSelected left)
    (turn : page.InTurn left (.answer index reply)) (view : HistoryView)
    (shown : page.activeTab = view.tab) (newest : HistoryRead)
    (asked : page.newestRead view = some newest) (gone : newest ∉ later.reads) :
    Shows left (later.panel view) newest := by
  rw [answered_flight page kept index read reply found later answers] at gone
  by_cases own : view = read.view
  · rw [own] at asked shown ⊢
    have rule := turn read found shown newest asked
    by_cases same : newest = read
    · rw [if_pos same] at rule
      rw [same]
      exact (shows_newest_iff left page kept index read reply found later answers).mpr rule
    · rw [if_neg same] at rule
      exact absurd ⟨rule, same⟩ gone
  · have differs : newest ≠ read := by
      intro same
      have named := List.find?_some asked
      rw [decide_eq_true_eq, same] at named
      exact own named.symm
    have earlier : newest ∉ page.reads := fun inside => gone ⟨inside, differs⟩
    obtain ⟨newer, same, _, shows⟩ := before.shown view shown
    rw [asked, Option.some.injEq] at same
    rw [← same] at shows
    rw [answers.other view own]
    exact shows earlier

/-- After an answer the page shows the selected range exactly if the answer came in turn. -/
theorem showsSelected_answer_iff (selected : page.Selected) (before : page.ShowsSelected left) :
    ShowsSelected left { later with steps := page.steps + 1 } ↔
      page.InTurn left (.answer index reply) := by
  constructor
  · exact inTurn_of_showsSelected left page kept index read reply found later answers
  · intro turn
    obtain ⟨_, _, tab, _, button⟩ := answers.kept
    have range := answers_getRange page index read reply later answers
    have newestRead := answers_newestRead page index read reply later answers
    refine ⟨button.trans (selected.highlighted.trans range.symm), ?_⟩
    intro view shown
    obtain ⟨newest, asked, wanted⟩ := selected.active view (tab.symm.trans shown)
    refine ⟨newest, (congrFun newestRead view).trans asked, wanted.trans range.symm, ?_⟩
    intro gone
    exact shows_of_inTurn left page kept index read reply found later answers before turn view
      (tab.symm.trans shown) newest asked gone

end Exact

section Runs

variable (left : Bool) (page : HistoryPage β)

/-- After a refresh the newest read of the shown view is in flight. -/
theorem showsSelected_refreshHistory (highlighted : page.highlighted = page.getRange) :
    ShowsSelected left { page.refreshHistory with steps := page.steps + 1 } := by
  obtain ⟨tab, stored, button⟩ := refreshHistory_kept page
  have range : page.refreshHistory.getRange = page.getRange := by
    unfold getRange
    rw [stored]
  constructor
  · exact button.trans (highlighted.trans range.symm)
  · intro view shown
    obtain ⟨read, newest, asked, flight⟩ := refreshHistory_shown page view (tab.symm.trans shown)
    exact ⟨read, newest, asked.trans range.symm, fun landed => absurd flight landed⟩

/-- A step shows the selected range exactly if its answer came in turn. -/
theorem showsSelected_step_iff (kept : page.Kept) (selected : page.Selected)
    (before : page.ShowsSelected left) (input : HistoryInput β) :
    (page.step input).ShowsSelected left ↔ page.InTurn left input := by
  cases input with
  | select range =>
      exact iff_of_true (showsSelected_refreshHistory left
        { page with stored := some range }.syncRangeButtons rfl) trivial
  | tab name =>
      exact iff_of_true (showsSelected_refreshHistory left { page with activeTab := name }
        selected.highlighted) trivial
  | refresh =>
      exact iff_of_true (showsSelected_refreshHistory left page selected.highlighted) trivial
  | answer index reply =>
      change ShowsSelected left { page.answer index reply with steps := page.steps + 1 } ↔ _
      unfold answer
      cases found : page.reads[index]? with
      | none =>
          refine iff_of_true ⟨before.highlighted, before.shown⟩ ?_
          intro read again
          rw [found] at again
          exact absurd again (by simp)
      | some read =>
          exact showsSelected_answer_iff left page kept index read reply found _
            (hideLoading_answers _ _ read reply (settle_answers _ read reply)) selected before

end Runs

/-- The shown view shows the selected range throughout a run exactly when every answer of the run
comes in turn, whether parts may be left over above an error or not. -/
theorem showsSelected_iff (left : Bool) (stored : Option String)
    (history : List (HistoryInput β)) :
    (∀ part, part <:+ history → (historyAfter stored part).ShowsSelected left) ↔
      Guarded step ({ stored := stored : HistoryPage β }.syncRangeButtons) (InTurn left)
        history := by
  apply guarded_states_iff step _ (InTurn left) (ShowsSelected left)
  · refine ⟨rfl, ?_⟩
    exact fun view shown => absurd shown (overview_hidden view)
  · intro input earlier before
    have run := historyAfter_kept stored earlier
    exact showsSelected_step_iff left _ run.1 run.2 before input

/-- The operator opens the trends, selects an hour, and the answer for the day arrives last. -/
def slowDay : List (HistoryInput Unit) :=
  [.answer 0 (.data () true none), .answer 1 (.data () true none), .select "1h",
    .tab "queue-trends"]

/-- The slow answer of an earlier range is shown instead of the newest one. -/
theorem showsSelected_fails : ¬ ∃ left, (historyAfter none slowDay).ShowsSelected left := by
  rintro ⟨left, shows⟩
  obtain ⟨read, newest, _, landed⟩ := shows.shown .queue (by decide +kernel)
  have sent : ((historyAfter none slowDay).newestRead .queue).map HistoryRead.sent = some 1 := by
    decide +kernel
  rw [newest, Option.map_some, Option.some.injEq] at sent
  have answered : (historyAfter none slowDay).reads.length = 0 := by decide +kernel
  have shown := landed (by
    rw [List.eq_nil_of_length_eq_zero answered]
    exact List.not_mem_nil)
  have clear : ((historyAfter none slowDay).panel .queue).error.isNone = true := by decide +kernel
  have tiles : (((historyAfter none slowDay).panel .queue).drawn .tiles).map Written.sent =
      some 0 := by decide +kernel
  cases drawing : ((historyAfter none slowDay).panel .queue).drawn .tiles with
  | none =>
      rw [drawing] at tiles
      exact absurd tiles (by decide)
  | some written =>
      rw [drawing, Option.map_some, Option.some.injEq] at tiles
      rcases shown.drawn .tiles written drawing with own | ⟨_, line, above, _⟩
      · rw [tiles, sent] at own
        exact absurd own (by decide)
      · rw [above] at clear
        exact absurd clear Bool.false_ne_true

end HistoryPage

end OperationsConsole.Browser
