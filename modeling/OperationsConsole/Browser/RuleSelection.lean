/-
This file embeds the selection of rules in the extraction analysis of `dashboard/static/admin.js`.
A prompt asks for the rules whose boxes were last checked.
-/

import OperationsConsole.Browser.QueryText
import OperationsConsole.Library.Dict
import OperationsConsole.Library.Loop

namespace OperationsConsole.Browser.RuleSelection

open Library

/-- The values of a report as texts. A text reads as itself. -/
structure Values (υ : Type) where
  text : υ → String
  ofText : String → υ
  same : ∀ given, text (ofText given) = given

structure RuleRow (υ : Type) where
  rule : υ
  entityType : υ

structure RuleBox (υ : Type) where
  row : RuleRow υ
  checked : Bool := false

structure RulePanel (υ : Type) where
  selectedRecords : Dict String (RuleRow υ) := Dict.empty
  boxes : List (RuleBox υ) := []
  promptCount : String := "0 rules selected"

inductive PanelInput (υ : Type) where
  | report (byRule : List (RuleRow υ))
  | change (index : ℕ) (checked : Bool)
  | toggleAll (checked : Bool)
  | switchView (viewName : String)

/-- A box that was checked or unchecked, with the record that it stands for. -/
structure Touch (υ : Type) where
  key : String
  record : RuleRow υ
  checked : Bool

inductive PromptOutcome (υ : Type) where
  | toast (message : String)
  | request (path : List Char) (rules : List (RuleRow υ))

section Panel

variable {υ : Type} (values : Values υ)

def ruleKey (row : RuleRow υ) : String :=
  values.text row.rule ++ "::" ++ values.text row.entityType

/-- The data attributes of a box hold texts. -/
def dataset (row : RuleRow υ) : RuleRow υ :=
  ⟨values.ofText (values.text row.rule), values.ofText (values.text row.entityType)⟩

def Touch.apply (selected : Dict String (RuleRow υ)) (touch : Touch υ) : Dict String (RuleRow υ) :=
  if touch.checked then selected.set touch.key touch.record else selected.erase touch.key

def countText (size : ℕ) : String :=
  toString size ++ " rule" ++ (if size = 1 then "" else "s") ++ " selected"

variable (panel : RulePanel υ)

def updatePromptCount : RulePanel υ :=
  { panel with promptCount := countText panel.selectedRecords.length }

/-- New boxes are not checked, whatever is selected. -/
def renderRuleBreakdown (byRule : List (RuleRow υ)) : RulePanel υ :=
  { panel with boxes := byRule.map fun row => { row := row } }

def changeBox (index : ℕ) (checked : Bool) : RulePanel υ :=
  match panel.boxes[index]? with
  | none => panel
  | some box =>
      updatePromptCount { panel with
        boxes := panel.boxes.set index { box with checked := checked }
        selectedRecords :=
          Touch.apply panel.selectedRecords ⟨ruleKey values box.row, box.row, checked⟩ }

/-- The boxes are read back from their data attributes. -/
def toggleSelectAll (checked : Bool) : RulePanel υ :=
  let records := panel.boxes.map fun box => dataset values box.row
  updatePromptCount { panel with
    boxes := panel.boxes.map fun box => { box with checked := checked }
    selectedRecords := (records.map fun record =>
      Touch.mk (ruleKey values record) record checked).foldl Touch.apply panel.selectedRecords }

def switchView (viewName : String) : RulePanel υ :=
  if viewName = "prompt" then updatePromptCount panel else panel

def step : PanelInput υ → RulePanel υ
  | .report byRule => renderRuleBreakdown panel byRule
  | .change index checked => changeBox values panel index checked
  | .toggleAll checked => toggleSelectAll values panel checked
  | .switchView viewName => switchView panel viewName

/-- Both prompts are asked for with the selected records of the chosen version. -/
def requestPrompt (operation : String) (version : List Char) : PromptOutcome υ :=
  if version = [] then .toast "Select a version first"
  else if panel.selectedRecords.length = 0 then .toast "Select at least one rule"
  else .request ("/admin/api/extraction-analysis/".toList ++ encodeURIComponent version ++
    '/' :: operation.toList) (panel.selectedRecords.items.map Prod.snd)

def generatePrompt (version : List Char) : PromptOutcome υ :=
  requestPrompt panel "prompt-context" version

def generateAiPrompt (version : List Char) : PromptOutcome υ :=
  requestPrompt panel "generate-ai-prompt" version

end Panel

section Runs

variable {υ : Type} (values : Values υ)

def panelAfter (history : List (PanelInput υ)) : RulePanel υ := after (step values) {} history

/-- The boxes that an input touches, in their order. -/
def touchesOf (panel : RulePanel υ) : PanelInput υ → List (Touch υ)
  | .report _ | .switchView _ => []
  | .change index checked => panel.boxes[index]?.toList.map fun box =>
      ⟨ruleKey values box.row, box.row, checked⟩
  | .toggleAll checked => panel.boxes.map fun box =>
      ⟨ruleKey values (dataset values box.row), dataset values box.row, checked⟩

/-- The touches of a run, the newest first. -/
def touches : List (PanelInput υ) → List (Touch υ)
  | [] => []
  | input :: earlier =>
      (touchesOf values (panelAfter values earlier) input).reverse ++ touches earlier

/-- What was selected when the shown boxes were drawn. -/
def drawnWith : List (PanelInput υ) → Dict String (RuleRow υ)
  | [] => Dict.empty
  | .report _ :: earlier => (panelAfter values earlier).selectedRecords
  | _ :: earlier => drawnWith earlier

def lastTouch (history : List (PanelInput υ)) (key : String) : Option (Touch υ) :=
  (touches values history).find? fun touch => decide (touch.key = key)

/-- The record of a touch that checked its box. -/
def Touch.chosen (touch : Touch υ) : Option (RuleRow υ) :=
  if touch.checked then some touch.record else none

/-- A row that some report showed. -/
def Drawn (history : List (PanelInput υ)) (row : RuleRow υ) : Prop :=
  ∃ byRule, .report byRule ∈ history ∧ row ∈ byRule

/-- A row that was drawn stays a row that was drawn. -/
theorem Drawn.later {history : List (PanelInput υ)} {row : RuleRow υ} (drawn : Drawn history row)
    (input : PanelInput υ) : Drawn (input :: history) row := by
  obtain ⟨byRule, shown, member⟩ := drawn
  exact ⟨byRule, List.mem_cons_of_mem _ shown, member⟩

/-- The data of a box give the key of its row. -/
theorem ruleKey_dataset (row : RuleRow υ) :
    ruleKey values (dataset values row) = ruleKey values row := by
  rw [ruleKey, dataset, values.same, values.same]
  rfl

/-- A touch decides its own key only. -/
theorem get?_apply (selected : Dict String (RuleRow υ)) (touch : Touch υ) (key : String) :
    (touch.apply selected).get? key =
      if touch.key = key then touch.chosen else selected.get? key := by
  unfold Touch.apply Touch.chosen
  split
  · rw [Dict.get?_set]
    simp only [eq_comm]
  · rw [Dict.get?_erase]
    simp only [eq_comm]

/-- The newest touch of a key decides whether it is selected. -/
theorem get?_applied (touched : List (Touch υ)) (selected : Dict String (RuleRow υ))
    (key : String) :
    (touched.foldl Touch.apply selected).get? key =
      ((touched.reverse.find? fun touch => decide (touch.key = key)).map Touch.chosen).getD
        (selected.get? key) := by
  induction touched generalizing selected with
  | nil => rfl
  | cons touch touched ih =>
      rw [List.foldl_cons, ih, List.reverse_cons, List.find?_append]
      cases touched.reverse.find? fun touch => decide (touch.key = key) with
      | some later => rfl
      | none =>
          change (touch.apply selected).get? key = _
          rw [get?_apply, Option.none_or, List.find?_singleton]
          by_cases own : touch.key = key
          · simp [own]
          · simp [own]

/-- A change of the view keeps the selection. -/
theorem switchView_selected (panel : RulePanel υ) (viewName : String) :
    (switchView panel viewName).selectedRecords = panel.selectedRecords := by
  unfold switchView
  split <;> rfl

theorem switchView_boxes (panel : RulePanel υ) (viewName : String) :
    (switchView panel viewName).boxes = panel.boxes := by
  unfold switchView
  split <;> rfl

/-- A changed box touches the key of its row. -/
theorem changeBox_selected (panel : RulePanel υ) (index : ℕ) (checked : Bool) :
    (changeBox values panel index checked).selectedRecords =
      (touchesOf values panel (.change index checked)).foldl Touch.apply panel.selectedRecords := by
  unfold changeBox touchesOf
  dsimp only
  cases panel.boxes[index]? with
  | none => rfl
  | some box => rfl

/-- An input applies its touches to the selection. -/
theorem selectedRecords_step (panel : RulePanel υ) (input : PanelInput υ) :
    (step values panel input).selectedRecords =
      (touchesOf values panel input).foldl Touch.apply panel.selectedRecords := by
  cases input with
  | report byRule => rfl
  | change index checked => exact changeBox_selected values panel index checked
  | toggleAll checked =>
      change ((panel.boxes.map _).map _).foldl _ _ = _
      rw [List.map_map]
      rfl
  | switchView viewName => exact switchView_selected panel viewName

theorem promptCount_step (panel : RulePanel υ) (input : PanelInput υ)
    (counted : panel.promptCount = countText panel.selectedRecords.length) :
    (step values panel input).promptCount =
      countText (step values panel input).selectedRecords.length := by
  cases input with
  | report byRule => exact counted
  | change index checked =>
      change (changeBox values panel index checked).promptCount =
        countText (changeBox values panel index checked).selectedRecords.length
      unfold changeBox
      cases panel.boxes[index]? with
      | none => exact counted
      | some box => rfl
  | toggleAll checked => rfl
  | switchView viewName =>
      change (switchView panel viewName).promptCount =
        countText (switchView panel viewName).selectedRecords.length
      unfold switchView
      split
      · rfl
      · exact counted

/-- A rule is selected exactly if its last touch checked a box. -/
theorem selected_lastTouch (history : List (PanelInput υ)) (key : String) :
    (panelAfter values history).selectedRecords.get? key =
      (lastTouch values history key).bind Touch.chosen := by
  induction history with
  | nil => rfl
  | cons input earlier ih =>
      change (step values (panelAfter values earlier) input).selectedRecords.get? key = _
      rw [selectedRecords_step, get?_applied, ih]
      unfold lastTouch
      rw [touches, List.find?_append]
      cases (touchesOf values (panelAfter values earlier) input).reverse.find?
          fun touch => decide (touch.key = key) with
      | none => rfl
      | some touch => rfl

/-- The count on the panel is the number of the selected records. -/
theorem promptCount_after (history : List (PanelInput υ)) :
    (panelAfter values history).promptCount =
      countText (panelAfter values history).selectedRecords.length := by
  induction history with
  | nil =>
      change "0 rules selected" = countText 0
      decide
  | cons input earlier ih => exact promptCount_step values _ input ih

/-- The rows of the boxes change only with a report. -/
theorem rows_change (panel : RulePanel υ) (index : ℕ) (checked : Bool) :
    (changeBox values panel index checked).boxes.map RuleBox.row = panel.boxes.map RuleBox.row := by
  unfold changeBox
  cases found : panel.boxes[index]? with
  | none => rfl
  | some box =>
      apply List.ext_getElem?
      intro place
      change ((panel.boxes.set index _).map _)[place]? = _
      rw [List.getElem?_map, List.getElem?_map, List.getElem?_set]
      by_cases own : index = place
      · obtain ⟨within, same⟩ := List.getElem?_eq_some_iff.mp found
        rw [if_pos own, if_pos within, ← own, found]
        rfl
      · rw [if_neg own]

/-- The boxes keep their rows when all of them change. -/
theorem rows_toggle (panel : RulePanel υ) (checked : Bool) :
    (toggleSelectAll values panel checked).boxes.map RuleBox.row =
      panel.boxes.map RuleBox.row := by
  change (panel.boxes.map _).map _ = _
  rw [List.map_map]
  rfl

/-- Every box stands for a row that was drawn. -/
theorem boxes_drawn (history : List (PanelInput υ)) :
    ∀ row ∈ (panelAfter values history).boxes.map RuleBox.row, Drawn history row := by
  induction history with
  | nil => simp [panelAfter]
  | cons input earlier ih =>
      intro row member
      cases input with
      | report byRule =>
          change row ∈ (byRule.map fun row => RuleBox.mk row false).map _ at member
          rw [List.map_map] at member
          exact ⟨byRule, List.mem_cons_self, by simpa using member⟩
      | change index checked =>
          change row ∈ (changeBox values (panelAfter values earlier) index checked).boxes.map _
            at member
          rw [rows_change] at member
          exact (ih row member).later _
      | toggleAll checked =>
          change row ∈ (toggleSelectAll values (panelAfter values earlier) checked).boxes.map _
            at member
          rw [rows_toggle] at member
          exact (ih row member).later _
      | switchView viewName =>
          change row ∈ (switchView (panelAfter values earlier) viewName).boxes.map _ at member
          rw [switchView_boxes] at member
          exact (ih row member).later _

/-- A record that stands for a row, as the report has it or as its box holds it. -/
def StandsFor (record row : RuleRow υ) : Prop := record = row ∨ record = dataset values row

/-- A touch is of a row that is shown. -/
theorem touchesOf_shown (panel : RulePanel υ) (input : PanelInput υ) :
    ∀ touch ∈ touchesOf values panel input, ∃ row ∈ panel.boxes.map RuleBox.row,
      touch.key = ruleKey values row ∧ StandsFor values touch.record row := by
  intro touch member
  cases input with
  | report byRule => cases member
  | change index checked =>
      obtain ⟨box, found, same⟩ := List.mem_map.mp member
      have shown := List.mem_of_getElem? (Option.mem_toList.mp found)
      exact ⟨box.row, List.mem_map_of_mem shown, same ▸ rfl, same ▸ .inl rfl⟩
  | toggleAll checked =>
      obtain ⟨box, shown, same⟩ := List.mem_map.mp member
      exact ⟨box.row, List.mem_map_of_mem shown, same ▸ ruleKey_dataset values box.row,
        same ▸ .inr rfl⟩
  | switchView viewName => cases member

/-- Every touch is of a row that was drawn. -/
theorem touches_drawn (history : List (PanelInput υ)) : ∀ touch ∈ touches values history,
    ∃ row, Drawn history row ∧ touch.key = ruleKey values row ∧
      StandsFor values touch.record row := by
  induction history with
  | nil => simp [touches]
  | cons input earlier ih =>
      intro touch member
      rw [touches, List.mem_append, List.mem_reverse] at member
      rcases member with now | before
      · obtain ⟨row, shown, named, stands⟩ := touchesOf_shown values _ input touch now
        exact ⟨row, (boxes_drawn values earlier row shown).later input, named, stands⟩
      · obtain ⟨row, drawn, named, stands⟩ := ih touch before
        exact ⟨row, drawn.later input, named, stands⟩

/-- A drawn row was last touched by checking its box, and the record stands for it. -/
structure Chosen (history : List (PanelInput υ)) (row record : RuleRow υ) : Prop where
  drawn : Drawn history row
  last : lastTouch values history (ruleKey values row) = some ⟨ruleKey values row, record, true⟩

/-- A record is selected exactly if the last touch of its key checked it. -/
theorem selected_iff (history : List (PanelInput υ)) (key : String) (record : RuleRow υ) :
    (panelAfter values history).selectedRecords.get? key = some record ↔
      lastTouch values history key = some ⟨key, record, true⟩ := by
  rw [selected_lastTouch]
  cases last : lastTouch values history key with
  | none => simp
  | some touch =>
      have named : touch.key = key := by simpa using List.find?_some last
      obtain ⟨own, held, checked⟩ := touch
      cases checked with
      | false => simp [Touch.chosen]
      | true => simpa [Touch.chosen] using fun _ => named

/-- The selected records are the chosen ones. -/
theorem mem_selected_iff (history : List (PanelInput υ)) (record : RuleRow υ) :
    record ∈ (panelAfter values history).selectedRecords.items.map Prod.snd ↔
      ∃ row, Chosen values history row record := by
  constructor
  · intro member
    obtain ⟨⟨key, held⟩, present, same⟩ := List.mem_map.mp member
    subst same
    have last := (selected_iff values history key held).mp
      ((Dict.get?_eq_some_iff _ _ _).mpr present)
    obtain ⟨row, drawn, named, _⟩ := touches_drawn values history _ (List.mem_of_find?_eq_some last)
    exact ⟨row, drawn, named ▸ last⟩
  · intro chosen
    obtain ⟨row, chosen⟩ := chosen
    have held := (selected_iff values history _ record).mpr chosen.last
    exact List.mem_map.mpr ⟨_, (Dict.get?_eq_some_iff _ _ _).mp held, rfl⟩

/-- What a box tells of the selection, given what was selected when it was drawn. -/
structure Tells (selected drawn : Dict String (RuleRow υ)) (box : RuleBox υ) : Prop where
  checked : box.checked = true → ∃ record, selected.get? (ruleKey values box.row) = some record
  unchecked : box.checked = false → ∀ record,
    selected.get? (ruleKey values box.row) = some record →
      drawn.get? (ruleKey values box.row) = some record

/-- A box tells the last touch of its key. -/
theorem tells_of_chosen (selected drawn : Dict String (RuleRow υ)) (box : RuleBox υ)
    (touch : Touch υ) (same : touch.checked = box.checked)
    (held : selected.get? (ruleKey values box.row) = touch.chosen) :
    Tells values selected drawn box := by
  rw [Touch.chosen, same] at held
  constructor
  · intro checked
    rw [if_pos checked] at held
    exact ⟨_, held⟩
  · intro unchecked record present
    rw [held, unchecked] at present
    cases present

/-- After a change of one box every box tells its selection. -/
theorem tells_change (panel : RulePanel υ) (drawn : Dict String (RuleRow υ)) (index : ℕ)
    (checked : Bool) (distinct : (panel.boxes.map fun box => ruleKey values box.row).Nodup)
    (told : ∀ box ∈ panel.boxes, Tells values panel.selectedRecords drawn box) :
    ∀ box ∈ (changeBox values panel index checked).boxes,
      Tells values (changeBox values panel index checked).selectedRecords drawn box := by
  unfold changeBox
  cases found : panel.boxes[index]? with
  | none => exact told
  | some target =>
      intro box member
      obtain ⟨place, at_place⟩ := List.mem_iff_getElem?.mp member
      change (panel.boxes.set index _)[place]? = _ at at_place
      change Tells values (Touch.apply panel.selectedRecords _) drawn box
      obtain ⟨within, _⟩ := List.getElem?_eq_some_iff.mp found
      rw [List.getElem?_set] at at_place
      by_cases own : index = place
      · rw [if_pos own, if_pos within, Option.some_inj] at at_place
        apply tells_of_chosen values _ drawn box ⟨ruleKey values target.row, target.row, checked⟩
        · rw [← at_place]
        · rw [get?_apply, ← at_place, if_pos rfl]
      · rw [if_neg own] at at_place
        -- Another box has another key, so its record stays as it was.
        have other : ruleKey values target.row ≠ ruleKey values box.row := by
          intro same
          apply own
          apply (List.getElem?_inj (by simpa using within) distinct).mp
          rw [List.getElem?_map, List.getElem?_map, found, at_place]
          exact congrArg some same
        have before := told box (List.mem_of_getElem? at_place)
        constructor
        · rw [get?_apply, if_neg other]
          exact before.checked
        · rw [get?_apply, if_neg other]
          exact before.unchecked

/-- After a change of all boxes every box tells its selection. -/
theorem tells_toggle (panel : RulePanel υ) (drawn : Dict String (RuleRow υ)) (checked : Bool) :
    ∀ box ∈ (toggleSelectAll values panel checked).boxes,
      Tells values (toggleSelectAll values panel checked).selectedRecords drawn box := by
  intro box member
  obtain ⟨source, shown, same⟩ := List.mem_map.mp member
  subst same
  change Tells values (step values panel (.toggleAll checked)).selectedRecords drawn _
  have applied := get?_applied (touchesOf values panel (.toggleAll checked)) panel.selectedRecords
    (ruleKey values source.row)
  rw [← selectedRecords_step] at applied
  cases last : (touchesOf values panel (.toggleAll checked)).reverse.find?
      fun touch => decide (touch.key = ruleKey values source.row) with
  | none =>
      -- The box itself was touched under its key.
      have touched : Touch.mk (ruleKey values (dataset values source.row))
          (dataset values source.row) checked ∈
            (touchesOf values panel (.toggleAll checked)).reverse :=
        List.mem_reverse.mpr (List.mem_map_of_mem shown)
      have missed := List.find?_eq_none.mp last _ touched
      rw [ruleKey_dataset] at missed
      simp at missed
  | some touch =>
      rw [last] at applied
      have present := List.mem_reverse.mp (List.mem_of_find?_eq_some last)
      obtain ⟨_, _, made⟩ := List.mem_map.mp present
      exact tells_of_chosen values _ drawn _ touch (made ▸ rfl) applied

/-- A checked box is selected. An unchecked box is selected only as it was when drawn. -/
theorem boxes_tell (history : List (PanelInput υ))
    (distinct : ((panelAfter values history).boxes.map fun box => ruleKey values box.row).Nodup) :
    ∀ box ∈ (panelAfter values history).boxes,
      Tells values (panelAfter values history).selectedRecords (drawnWith values history) box := by
  have keys (panel : RulePanel υ) : (panel.boxes.map fun box => ruleKey values box.row) =
      (panel.boxes.map RuleBox.row).map (ruleKey values) := by
    rw [List.map_map]
    rfl
  induction history with
  | nil => simp [panelAfter]
  | cons input earlier ih =>
      cases input with
      | report byRule =>
          intro box member
          obtain ⟨row, _, same⟩ := List.mem_map.mp member
          subst same
          constructor
          · intro checked
            cases checked
          · intro _ record present
            exact present
      | change index checked =>
          change ((changeBox values (panelAfter values earlier) index checked).boxes.map _).Nodup
            at distinct
          rw [keys, rows_change, ← keys] at distinct
          exact tells_change values _ _ index checked distinct (ih distinct)
      | toggleAll checked => exact tells_toggle values _ _ checked
      | switchView viewName =>
          change ((switchView (panelAfter values earlier) viewName).boxes.map _).Nodup at distinct
          change ∀ box ∈ (switchView (panelAfter values earlier) viewName).boxes,
            Tells values (switchView (panelAfter values earlier) viewName).selectedRecords _ box
          rw [switchView_boxes] at distinct ⊢
          rw [switchView_selected]
          exact ih distinct

/-- This law says what a panel has selected, shows and asks for after any inputs. -/
structure SelectionLaw (history : List (PanelInput υ)) : Prop where
  selected : ∀ key record,
    (panelAfter values history).selectedRecords.get? key = some record ↔
      lastTouch values history key = some ⟨key, record, true⟩
  counted : (panelAfter values history).promptCount =
    countText (panelAfter values history).selectedRecords.length
  shown : ((panelAfter values history).boxes.map fun box => ruleKey values box.row).Nodup →
    ∀ box ∈ (panelAfter values history).boxes,
      Tells values (panelAfter values history).selectedRecords (drawnWith values history) box
  standing : ∀ row record, Chosen values history row record →
    ∃ other, Drawn history other ∧ ruleKey values other = ruleKey values row ∧
      StandsFor values record other
  refused : ∀ operation version, version ≠ [] →
    (requestPrompt (panelAfter values history) operation version =
      .toast "Select at least one rule" ↔ ∀ row record, ¬ Chosen values history row record)
  sent : ∀ operation version path rules,
    requestPrompt (panelAfter values history) operation version = .request path rules →
      ∀ record, record ∈ rules ↔ ∃ row, Chosen values history row record

/-- A prompt is refused exactly if no row is chosen. -/
theorem refused_iff (history : List (PanelInput υ)) (operation : String) (version : List Char)
    (named : version ≠ []) :
    requestPrompt (panelAfter values history) operation version =
      .toast "Select at least one rule" ↔ ∀ row record, ¬ Chosen values history row record := by
  rw [requestPrompt, if_neg named]
  have nothing : (panelAfter values history).selectedRecords.length = 0 ↔
      ∀ row record, ¬ Chosen values history row record := by
    rw [Dict.length, ← List.length_map Prod.snd, List.length_eq_zero_iff,
      List.eq_nil_iff_forall_not_mem]
    constructor
    · intro absent row record chosen
      exact absent record ((mem_selected_iff values history record).mpr ⟨row, chosen⟩)
    · intro absent record member
      obtain ⟨row, chosen⟩ := (mem_selected_iff values history record).mp member
      exact absent row record chosen
  rw [← nothing]
  split
  · next zero => exact iff_of_true rfl zero
  · next some => exact iff_of_false nofun some

/-- A request has the chosen records. -/
theorem sent_iff (history : List (PanelInput υ)) (operation : String)
    (version path : List Char) (rules : List (RuleRow υ))
    (asked : requestPrompt (panelAfter values history) operation version = .request path rules)
    (record : RuleRow υ) : record ∈ rules ↔ ∃ row, Chosen values history row record := by
  rw [requestPrompt] at asked
  split at asked
  · cases asked
  · split at asked
    · cases asked
    · cases asked
      exact mem_selected_iff values history record

/-- After every history the selection is what the boxes last said. -/
theorem selection_law (history : List (PanelInput υ)) : SelectionLaw values history where
  selected := selected_iff values history
  counted := promptCount_after values history
  shown := boxes_tell values history
  standing := by
    intro row record chosen
    obtain ⟨other, drawn, named, stands⟩ :=
      touches_drawn values history _ (List.mem_of_find?_eq_some chosen.last)
    exact ⟨other, drawn, named.symm, stands⟩
  refused := refused_iff values history
  sent := sent_iff values history

/-- A prompt is refused without a chosen record, and else it has the chosen records of its version. -/
structure PromptLaw (history : List (PanelInput υ)) (operation : String)
    (prompt : List Char → PromptOutcome υ) : Prop where
  refused : ∀ version, version ≠ [] →
    (prompt version = .toast "Select at least one rule" ↔ ∀ row record, ¬ Chosen values history row record)
  sent : ∀ version path rules, prompt version = .request path rules →
    path = "/admin/api/extraction-analysis/".toList ++ encodeURIComponent version ++
        '/' :: operation.toList ∧
      ∀ record, record ∈ rules ↔ ∃ row, Chosen values history row record

/-- Every request for a prompt obeys the law of the prompts. -/
theorem promptLaw_request (history : List (PanelInput υ)) (operation : String) :
    PromptLaw values history operation (requestPrompt (panelAfter values history) operation) where
  refused := refused_iff values history operation
  sent := by
    intro version path rules asked
    refine ⟨?_, sent_iff values history operation version path rules asked⟩
    rw [requestPrompt] at asked
    split at asked
    · cases asked
    · split at asked
      · cases asked
      · cases asked
        rfl

/-- Both prompts follow the selection. -/
theorem prompts_law (history : List (PanelInput υ)) :
    PromptLaw values history "prompt-context" (generatePrompt (panelAfter values history)) ∧
      PromptLaw values history "generate-ai-prompt" (generateAiPrompt (panelAfter values history)) :=
  ⟨promptLaw_request values history _, promptLaw_request values history _⟩

end Runs

/-- A table that is drawn again shows no check, while its rule stays selected. -/
example (row : RuleRow String) :
    let values : Values String := ⟨id, id, fun _ => rfl⟩
    let panel := panelAfter values [.report [row], .change 0 true, .report [row]]
    panel.boxes.map RuleBox.checked = [false] ∧ panel.promptCount = "1 rule selected" := by
  refine ⟨rfl, ?_⟩
  change countText 1 = _
  decide

end OperationsConsole.Browser.RuleSelection
