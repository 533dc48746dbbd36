/-
This file embeds when the attention list collapses and re-opens, which is `updateAttention`.
It decides in which runs a collapsed list re-opens for exactly the new problems.
-/

import OperationsConsole.Browser.AttentionProblems
import OperationsConsole.Browser.CellMarks

namespace OperationsConsole.Browser

open Library

/-- The server names its pipelines without a colon, and a dead-letter queue that holds messages is
critical or a warning. -/
structure ShownInputs extends AttentionInputs where
  plain : ∀ report ∈ pipelines, ':' ∉ report.id.toList
  assessed : ∀ report ∈ pipelines, ∀ cell ∈ report.cells, cell.dlq.kind ∈ dlqKinds →
    cell.dlq.state = .crit ∨ cell.dlq.state = .warn

/-- Nothing is shown before the first reading and after a sign-out. -/
def ShownInputs.none : ShownInputs := ⟨⟨[], [], [], []⟩, by simp, by simp⟩

/-- The `seen` ids are those of the items that were drawn last. -/
structure AttentionList where
  seen : List String := []
  collapsed : Bool := false
  items : List Item := []
  deriving DecidableEq

/-- Readings and alert answers arrive in any order, and a click flips the list. Each of them
recomputes the items from the inputs that the page holds then. -/
inductive ListInput where
  | arrival (inputs : ShownInputs)
  | toggle (inputs : ShownInputs)
  | stop

def ListInput.inputs : ListInput → ShownInputs
  | arrival inputs => inputs
  | toggle inputs => inputs
  | stop => .none

namespace AttentionList

section Steps

variable (builtins : Builtins)

def updateAttention (inputs : AttentionInputs) (list : AttentionList) : AttentionList :=
  let items := derive builtins inputs
  { seen := items.map Item.id
    collapsed := list.collapsed && !items.any fun item => !list.seen.contains item.id
    items := items }

/-- This is the list as `updateAttention` finds it. -/
def found (list : AttentionList) : ListInput → AttentionList
  | .arrival _ => list
  | .toggle _ => { list with collapsed := !list.collapsed }
  | .stop => { list with seen := [], collapsed := false }

def step (list : AttentionList) (input : ListInput) : AttentionList :=
  updateAttention builtins input.inputs.toAttentionInputs (list.found input)

/-- A history of inputs has its newest first. -/
def run (history : List ListInput) : AttentionList := after (step builtins) {} history

end Steps

/-- These inputs were drawn by the newest input of a history. -/
def shown : List ListInput → ShownInputs
  | [] => .none
  | input :: _ => input.inputs

section Laws

variable (builtins : Builtins) {κ : Type} (identity : GrafanaAlert → κ)

/-- Some problem is not among the preceding ones. -/
def NewProblem (preceding inputs : AttentionInputs) : Prop :=
  ∃ problem ∈ problems builtins identity inputs, problem ∉ problems builtins identity preceding

/-- The critical items come first, then the warnings, and each part follows the sources. -/
def Ordered (inputs : AttentionInputs) : Prop :=
  derive builtins inputs =
    ((sourceItems builtins inputs).filter fun item => item.severity = .crit) ++
      (sourceItems builtins inputs).filter fun item => item.severity = .warn

/-- A collapsed list re-opens exactly for a new problem, and the items are in order. -/
structure ReopensForNew (history : List ListInput) : Prop where
  reopens : ∀ input part, input :: part <:+ history →
    ((run builtins part).found input).collapsed = true →
      ((run builtins (input :: part)).collapsed = false ↔
        NewProblem builtins identity (shown part).toAttentionInputs input.inputs.toAttentionInputs)
  ordered : ∀ input ∈ history, Ordered builtins input.inputs.toAttentionInputs

/-- Another problem is new, or the names of the alerts begin the preceding names exactly if every
alert is one of the preceding alerts. -/
def Recognised (preceding inputs : AttentionInputs) : Prop :=
  (∃ trouble ∈ troubles builtins inputs, trouble ∉ troubles builtins preceding) ∨
    (inputs.alerts.map GrafanaAlert.name <+: preceding.alerts.map GrafanaAlert.name ↔
      inputs.alerts.map identity ⊆ preceding.alerts.map identity)

end Laws

section Exact

variable (builtins : Builtins) {κ : Type} (identity : GrafanaAlert → κ)

theorem run_seen (input : ListInput) (part : List ListInput) :
    (run builtins (input :: part)).seen =
      (derive builtins input.inputs.toAttentionInputs).map Item.id := rfl

/-- The seen ids tell the shown items. -/
theorem mem_seen_iff (input : ListInput) (part : List ListInput) (id : String)
    (collapsed : ((run builtins part).found input).collapsed = true) :
    id ∈ ((run builtins part).found input).seen ↔
      id ∈ (derive builtins (shown part).toAttentionInputs).map Item.id := by
  have kept : ((run builtins part).found input).seen = (run builtins part).seen := by
    cases input with
    | arrival inputs => rfl
    | toggle inputs => rfl
    | stop => exact absurd collapsed Bool.false_ne_true
  rw [kept]
  cases part with
  | nil => exact Iff.rfl
  | cons newest older => rw [run_seen, shown]

theorem updateAttention_open_iff (inputs : AttentionInputs) (list : AttentionList)
    (collapsed : list.collapsed = true) :
    (updateAttention builtins inputs list).collapsed = false ↔
      ¬(derive builtins inputs).map Item.id ⊆ list.seen := by
  simp [updateAttention, collapsed, List.subset_def]

theorem problems_subset_iff (preceding inputs : AttentionInputs) :
    ¬NewProblem builtins identity preceding inputs ↔
      troubles builtins inputs ⊆ troubles builtins preceding ∧
        inputs.alerts.map identity ⊆ preceding.alerts.map identity := by
  unfold NewProblem
  constructor
  · intro old
    constructor
    · intro trouble member
      by_contra fresh
      exact old ⟨.own trouble, (own_mem_problems_iff ..).mpr member,
        fun known => fresh ((own_mem_problems_iff ..).mp known)⟩
    · intro alert member
      by_contra fresh
      exact old ⟨.alert alert, (alert_mem_problems_iff ..).mpr member,
        fun known => fresh ((alert_mem_problems_iff ..).mp known)⟩
  · rintro ⟨own, alerts⟩ ⟨problem, member, fresh⟩
    cases problem with
    | own trouble =>
        exact fresh ((own_mem_problems_iff ..).mpr
          (own ((own_mem_problems_iff ..).mp member)))
    | alert alert =>
        exact fresh ((alert_mem_problems_iff ..).mpr
          (alerts ((alert_mem_problems_iff ..).mp member)))

/-- The ids of the shown problems name them. -/
theorem troubles_plain (inputs : ShownInputs) (trouble : Trouble)
    (member : trouble ∈ troubles builtins inputs.toAttentionInputs) : trouble.Plain := by
  cases trouble with
  | service pipeline name =>
      simp only [troubles, platformTroubles, datastoreTroubles, List.mem_append, List.mem_map,
        List.mem_flatMap, reduceCtorEq, and_false, exists_false, or_false] at member
      obtain ⟨report, reported, raised⟩ := member
      have named : pipeline = report.id := by
        simp only [pipelineTroubles] at raised
        split at raised
        · simp at raised
        · rw [List.mem_append, List.mem_filterMap] at raised
          rcases raised with ⟨service, _, raised⟩ | raised
          · obtain ⟨_, _, same⟩ := Option.map_eq_some_iff.mp raised
            exact (Trouble.service.inj same).1.symm
          · split at raised
            · simp at raised
            · simp [cellTroubles] at raised
      rw [named]
      exact inputs.plain report reported
  | _ => trivial

/-- The ids of the items tell the own problems, and the alerts by their names and places. -/
theorem ids_subset_iff (preceding inputs : ShownInputs) :
    (derive builtins inputs.toAttentionInputs).map Item.id ⊆
        (derive builtins preceding.toAttentionInputs).map Item.id ↔
      troubles builtins inputs.toAttentionInputs ⊆ troubles builtins preceding.toAttentionInputs ∧
        inputs.alerts.map GrafanaAlert.name <+: preceding.alerts.map GrafanaAlert.name := by
  rw [← zipIdx_subset_iff]
  constructor
  · intro inside
    constructor
    · intro trouble member
      have known := inside ((mem_derive_id_iff builtins _ _).mpr
        (.inl (List.mem_map_of_mem member)))
      rw [mem_derive_id_iff, alertItems_id, List.mem_map, List.mem_map] at known
      rcases known with ⟨other, old, same⟩ | ⟨entry, _, same⟩
      · rw [← id_injective other trouble (troubles_plain builtins preceding other old)
          (troubles_plain builtins inputs trouble member) same]
        exact old
      · exact absurd same.symm (id_ne_alertId trouble entry)
    · intro entry member
      have known := inside ((mem_derive_id_iff builtins _ (alertId entry)).mpr
        (.inr (by rw [alertItems_id]; exact List.mem_map_of_mem member)))
      rw [mem_derive_id_iff, alertItems_id, List.mem_map, List.mem_map] at known
      rcases known with ⟨other, _, same⟩ | ⟨other, old, same⟩
      · exact absurd same (id_ne_alertId other entry)
      · rw [← alertId_injective other entry same]
        exact old
  · rintro ⟨own, alerts⟩ id member
    rw [mem_derive_id_iff, alertItems_id] at member ⊢
    rcases member with member | member
    · exact .inl (List.map_subset _ own member)
    · exact .inr (List.map_subset _ alerts member)

theorem serviceItem_severity (id label : String) (service : ServiceReading) (item : Item)
    (raised : serviceItem builtins id label service = some item) :
    item.severity = .crit ∨ item.severity = .warn := by
  simp only [serviceItem, Option.ite_none_left_eq_some, Option.some.injEq] at raised
  rw [← raised.2]
  exact ite_eq_or_eq _ _ _

theorem pipelineItems_severity (report : PipelineReport)
    (assessed : ∀ cell ∈ report.cells, cell.dlq.kind ∈ dlqKinds →
      cell.dlq.state = .crit ∨ cell.dlq.state = .warn) (item : Item)
    (member : item ∈ pipelineItems builtins report) :
    item.severity = .crit ∨ item.severity = .warn := by
  unfold pipelineItems at member
  split at member
  · rw [List.mem_singleton.mp member]
    exact .inl rfl
  · rw [List.mem_append, List.mem_filterMap] at member
    rcases member with ⟨service, _, raised⟩ | member
    · exact serviceItem_severity builtins _ _ service item raised
    · split at member
      · rw [List.mem_singleton.mp member]
        exact .inr rfl
      · obtain ⟨cell, inside, raised⟩ := List.mem_flatMap.mp member
        unfold cellItems at raised
        dsimp only at raised
        rcases List.mem_append.mp raised with queue | dlq
        · split at queue
          · rw [List.mem_singleton.mp queue]
            exact .inl rfl
          · simp at queue
        · split at dlq
          · rename_i listed
            rw [List.mem_singleton.mp dlq]
            exact assessed cell inside listed
          · simp at dlq

/-- Every item is critical or a warning. -/
theorem sourceItems_severity (inputs : ShownInputs) (item : Item)
    (member : item ∈ sourceItems builtins inputs.toAttentionInputs) :
    item.severity = .crit ∨ item.severity = .warn := by
  unfold sourceItems ownItems at member
  simp only [List.mem_append, List.mem_flatMap] at member
  rcases member with ((⟨report, reported, raised⟩ | platform) | datastore) | alert
  · exact pipelineItems_severity builtins report (inputs.assessed report reported) item raised
  · obtain ⟨service, _, rfl⟩ := List.mem_map.mp platform
    dsimp only
    split
    · exact .inr rfl
    · exact .inl rfl
  · obtain ⟨database, _, rfl⟩ := List.mem_map.mp datastore
    exact .inl rfl
  · obtain ⟨entry, _, rfl⟩ := List.mem_map.mp alert
    dsimp only
    split
    · exact .inl rfl
    · exact .inr rfl

/-- The items of shown inputs are in order. -/
theorem ordered_shown (inputs : ShownInputs) : Ordered builtins inputs.toAttentionInputs := by
  unfold Ordered
  have severe := sourceItems_severity builtins inputs
  rw [derive_eq_sort, insertionSort_eq_parts _ fun item => decide (item.severity = .crit)]
  · congr 1
    refine List.filter_congr ?_
    intro item member
    rcases severe item member with critical | warning
    · rw [critical]
      rfl
    · rw [warning]
      rfl
  · intro item member other inside
    rcases severe item member with one | one <;> rcases severe other inside with two | two <;>
      simp [one, two, HealthState.rank]

/-- A collapsed list re-opens exactly for a new problem if its input is recognised, and only then. -/
theorem reopens_iff_recognised (input : ListInput) (part : List ListInput)
    (collapsed : ((run builtins part).found input).collapsed = true) :
    ((run builtins (input :: part)).collapsed = false ↔
        NewProblem builtins identity (shown part).toAttentionInputs
          input.inputs.toAttentionInputs) ↔
      Recognised builtins identity (shown part).toAttentionInputs
        input.inputs.toAttentionInputs := by
  have seen : (derive builtins input.inputs.toAttentionInputs).map Item.id ⊆
        ((run builtins part).found input).seen ↔
      (derive builtins input.inputs.toAttentionInputs).map Item.id ⊆
        (derive builtins (shown part).toAttentionInputs).map Item.id :=
    forall₂_congr fun id _ => mem_seen_iff builtins input part id collapsed
  have opens := (updateAttention_open_iff builtins input.inputs.toAttentionInputs _
    collapsed).trans ((not_congr seen).trans
      (not_congr (ids_subset_iff builtins (shown part) input.inputs)))
  have fresh := problems_subset_iff builtins identity (shown part).toAttentionInputs
    input.inputs.toAttentionInputs
  refine (iff_congr opens (not_iff_comm.mp fresh).symm).trans ?_
  unfold Recognised
  by_cases own : troubles builtins input.inputs.toAttentionInputs ⊆
      troubles builtins (shown part).toAttentionInputs
  · have none : ¬∃ trouble ∈ troubles builtins input.inputs.toAttentionInputs,
        trouble ∉ troubles builtins (shown part).toAttentionInputs := by
      rintro ⟨trouble, member, unknown⟩
      exact unknown (own member)
    rw [and_iff_right own, and_iff_right own, or_iff_right none, not_iff_not]
  · refine iff_of_true (iff_of_true ?_ ?_) (.inl ?_)
    · exact fun both => own both.1
    · exact fun both => own both.1
    · simpa [List.subset_def] using own

/-- A collapsed list re-opens exactly for the new problems if every input is recognised. -/
theorem reopensForNew_iff (history : List ListInput) :
    ReopensForNew builtins identity history ↔
      ∀ input part, input :: part <:+ history →
        ((run builtins part).found input).collapsed = true →
          Recognised builtins identity (shown part).toAttentionInputs
            input.inputs.toAttentionInputs := by
  have exact := reopens_iff_recognised builtins identity
  constructor
  · intro law input part suffix collapsed
    exact (exact input part collapsed).mp (law.reopens input part suffix collapsed)
  · intro recognised
    refine ⟨?_, fun input _ => ordered_shown builtins input.inputs⟩
    intro input part suffix collapsed
    exact (exact input part collapsed).mpr (recognised input part suffix collapsed)

end Exact

def listBuiltins : Builtins := ⟨id, id, id, fun _ _ => ""⟩

def onlyAlerts (alerts : List GrafanaAlert) : ShownInputs :=
  ⟨⟨[], [], [], alerts⟩, by simp, by simp⟩

def firstAlert : GrafanaAlert := ⟨"HighLatency", "warn", "", "https://grafana.test/1"⟩

def secondAlert : GrafanaAlert := ⟨"LowDisk", "crit", "", "https://grafana.test/2"⟩

/-- The first of two alerts resolves, and the list re-opens for the one that was seen. -/
def resolvedRun : List ListInput :=
  [.arrival (onlyAlerts [secondAlert]), .toggle (onlyAlerts [firstAlert, secondAlert]),
    .arrival (onlyAlerts [firstAlert, secondAlert])]

/-- An alert that moves up in the list counts as new. -/
theorem reopensForNew_fails : ¬ReopensForNew listBuiltins id resolvedRun := by
  intro law
  have reopened := (law.reopens _ _ List.suffix_rfl (by decide)).mp (by decide)
  obtain ⟨problem, member, fresh⟩ := reopened
  have only : problem = .alert secondAlert := by
    simpa [problems, troubles, platformTroubles, datastoreTroubles, ListInput.inputs, onlyAlerts]
      using member
  exact fresh (by simp [problems, shown, ListInput.inputs, onlyAlerts, only])

end AttentionList

section Page

variable (builtins : Builtins) (page : Overview)

/-- The cells of the matrix assess their dead-letter queues. -/
theorem attentionCells_assessed (pipeline : LayoutPipeline) (cell : AttentionCell)
    (member : cell ∈ page.attentionCells builtins pipeline) (listed : cell.dlq.kind ∈ dlqKinds) :
    cell.dlq.state = .crit ∨ cell.dlq.state = .warn := by
  obtain ⟨consumer, _, entity, _, queue, _, rfl⟩ :=
    (mem_attentionCells_iff builtins page pipeline cell).mp member
  simp only [Overview.cellModel] at listed ⊢
  split at listed
  · simp [dlqKinds] at listed
  · rename_i available
    rw [if_neg available]
    rcases assessDlq_cases _ builtins with ⟨_, state⟩ | ⟨_, state⟩ | ⟨kind, _⟩
    · exact .inl state
    · exact .inr state
    · rcases kind with kind | kind
      · rw [kind] at listed
        simp [dlqKinds] at listed
      · rw [kind] at listed
        simp [dlqKinds] at listed

/-- The page hands these inputs to the list, for a layout that names its pipelines plainly. -/
def Overview.shownInputs (plain : ∀ layout, page.layout = some layout →
    ∀ pipeline ∈ layout.pipelines, ':' ∉ pipeline.id.toList) : ShownInputs where
  toAttentionInputs := page.attentionInputs builtins
  plain report reported := by
    obtain ⟨pipeline, listed, found⟩ := List.mem_filterMap.mp reported
    obtain ⟨reading, _, rfl⟩ := Option.map_eq_some_iff.mp found
    cases drawn : page.layout with
    | none => simp [drawn] at listed
    | some layout =>
        rw [drawn] at listed
        exact plain layout drawn pipeline listed
  assessed report reported cell member listed := by
    obtain ⟨pipeline, _, found⟩ := List.mem_filterMap.mp reported
    obtain ⟨reading, _, rfl⟩ := Option.map_eq_some_iff.mp found
    exact attentionCells_assessed builtins page pipeline cell member listed

/-- The layout of a page names its pipelines plainly. -/
def Overview.NamesPlainly : Prop :=
  ∀ layout, page.layout = some layout → ∀ pipeline ∈ layout.pipelines, ':' ∉ pipeline.id.toList

/-- The list of the page shows the page's items. A collapsed list that an answer reaches re-opens exactly
if the page has a problem that it had not when its list was drawn before, as long as the alerts are
recognised. -/
theorem Overview.reopens_iff {κ : Type} (identity : GrafanaAlert → κ) (before : Overview)
    (plain : page.NamesPlainly) (plainBefore : before.NamesPlainly)
    (older : List ListInput) :
    let part := .arrival (before.shownInputs builtins plainBefore) :: older
    let list := AttentionList.run builtins (.arrival (page.shownInputs builtins plain) :: part)
    list.items = page.attentionItems builtins ∧
      ((AttentionList.run builtins part).collapsed = true →
        AttentionList.Recognised builtins identity (before.attentionInputs builtins)
          (page.attentionInputs builtins) →
        (list.collapsed = false ↔ AttentionList.NewProblem builtins identity
          (before.attentionInputs builtins) (page.attentionInputs builtins))) := by
  intro part list
  refine ⟨rfl, fun collapsed recognised => ?_⟩
  exact (AttentionList.reopens_iff_recognised builtins identity
    (.arrival (page.shownInputs builtins plain)) part collapsed).mpr recognised

end Page

end OperationsConsole.Browser
