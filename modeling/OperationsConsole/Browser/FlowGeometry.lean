/-
This file shows that the boxes of a pipeline lie within its drawing and keep apart.
The running offset lies below every box of its columns, and an even spread has room for its boxes.
-/

import OperationsConsole.Browser.TopologyFlow

namespace OperationsConsole.Browser.TopologyFlow

open Library

section Standing

/-- A node stands in the column of its kind. -/
structure Node.Standing (node : Node) : Prop where
  x : node.box.x = node.subject.kind.x
  w : node.box.w = node.subject.kind.w

/-- A node has the place and the width of its kind. -/
theorem node_standing (subject : Subject) (y h : ℚ) : (node subject y h).Standing := ⟨rfl, rfl⟩

/-- The columns of two kinds stand beside each other. -/
theorem Kind.beside (first second : Kind) (different : first ≠ second) :
    first.x + first.w < second.x ∨ second.x + second.w < first.x := by
  cases first <;> cases second <;>
    first
    | exact absurd rfl different
    | norm_num [Kind.x, Kind.w]

/-- Every kind stands inside the drawing. -/
theorem Kind.within (kind : Kind) : 0 ≤ kind.x ∧ kind.x + kind.w ≤ width := by
  cases kind <;> norm_num [Kind.x, Kind.w, width]

/-- Nodes of two kinds stand apart. -/
theorem Node.apart_of_kind (first second : Node) (one : first.Standing) (two : second.Standing)
    (different : first.subject.kind ≠ second.subject.kind) : first.box.Apart second.box := by
  rcases Kind.beside _ _ different with before | after
  · apply Box.apart_of_beside
    rw [Box.right, one.x, one.w, two.x]
    exact before
  · apply Box.Apart.symm
    apply Box.apart_of_beside
    rw [Box.right, two.x, two.w, one.x]
    exact after

end Standing

section Stacking

/-- A placed queue ends above the offset, and a placed exchange above the present group. -/
structure Node.Placed (node : Node) (group offset : ℚ) : Prop where
  standing : node.Standing
  low : top ≤ node.box.y
  ends : (node.subject.kind = .queue ∧ node.box.bottom + queueGap ≤ offset) ∨
    (node.subject.kind = .exchange ∧ node.box.bottom + groupGap ≤ group)

/-- A later group places a node lower. -/
theorem Node.Placed.lower {node : Node} {group offset : ℚ} (placed : node.Placed group offset)
    (next other : ℚ) (later : group ≤ next) (grown : offset ≤ other) : node.Placed next other where
  standing := placed.standing
  low := placed.low
  ends := placed.ends.imp (fun queue => ⟨queue.1, queue.2.trans grown⟩)
    fun exchange => ⟨exchange.1, exchange.2.trans later⟩

/-- The nodes of a drawing keep apart and are placed. -/
structure Drawing.Stacked (drawing : Drawing) (group : ℚ) : Prop where
  apart : drawing.nodes.Pairwise fun first second => first.box.Apart second.box
  placed : ∀ node ∈ drawing.nodes, node.Placed group drawing.y

/-- A node below the earlier ones of its kind keeps apart from all. -/
theorem Drawing.Stacked.below {drawing : Drawing} {group : ℚ} (stacked : drawing.Stacked group)
    (last : Node) (standing : last.Standing)
    (below : ∀ node ∈ drawing.nodes, node.subject.kind = last.subject.kind →
      node.box.bottom < last.box.y) :
    (drawing.nodes ++ [last]).Pairwise fun first second => first.box.Apart second.box := by
  rw [List.pairwise_append]
  refine ⟨stacked.apart, List.pairwise_singleton _ _, ?_⟩
  intro node member other single
  rw [List.mem_singleton.mp single]
  by_cases same : node.subject.kind = last.subject.kind
  · exact Box.apart_of_above _ _ (below node member same)
  · exact Node.apart_of_kind node last (stacked.placed node member).standing standing same

/-- A new queue is stacked below the queues before it. -/
theorem Drawing.addQueue_stacked (entity : String) (drawing : Drawing) (consumer : FlowConsumer)
    (group : ℚ) (lower : top ≤ drawing.y) (stacked : drawing.Stacked group) :
    (drawing.addQueue entity consumer).Stacked group := by
  have gap : (0 : ℚ) < queueGap := by norm_num [queueGap]
  have tall : (0 : ℚ) < queueHeight := by norm_num [queueHeight]
  have grown : drawing.y ≤ drawing.y + (queueHeight + queueGap) := by linarith only [gap, tall]
  constructor
  · apply stacked.below _ (node_standing _ _ _)
    intro node member queue
    change node.box.bottom < drawing.y
    rcases (stacked.placed node member).ends with ⟨_, above⟩ | ⟨exchange, _⟩
    · linarith only [above, gap]
    · exact absurd (exchange.symm.trans queue) Kind.noConfusion
  · intro node member
    rcases List.mem_append.mp member with inside | last
    · exact (stacked.placed node inside).lower _ _ le_rfl grown
    · rw [List.mem_singleton.mp last]
      refine ⟨node_standing _ _ _, lower, .inl ⟨rfl, ?_⟩⟩
      change drawing.y + queueHeight + queueGap ≤ drawing.y + (queueHeight + queueGap)
      rw [add_assoc]

/-- The queues of a group take equal heights. -/
theorem Drawing.addQueues_y (entity : String) (consumers : List FlowConsumer) (drawing : Drawing) :
    (consumers.foldl (addQueue entity) drawing).y = drawing.y + 64 * consumers.length := by
  induction consumers generalizing drawing with
  | nil => simp
  | cons consumer consumers ih =>
      rw [List.foldl_cons, ih, List.length_cons]
      simp only [addQueue, queueHeight, queueGap]
      push_cast
      linarith

/-- The queues of an entity type are stacked one below another. -/
theorem Drawing.addQueues_stacked (entity : String) (consumers : List FlowConsumer)
    (drawing : Drawing) (group : ℚ) (lower : top ≤ drawing.y) (stacked : drawing.Stacked group) :
    (consumers.foldl (addQueue entity) drawing).Stacked group := by
  induction consumers generalizing drawing with
  | nil => exact stacked
  | cons consumer consumers ih =>
      apply ih
      · change top ≤ drawing.y + (queueHeight + queueGap)
        norm_num [queueHeight, queueGap]
        linarith only [lower]
      · exact addQueue_stacked entity drawing consumer group lower stacked

/-- After a group, all nodes end above the next one. -/
structure Drawing.Grouped (drawing : Drawing) : Prop where
  lower : top ≤ drawing.y
  stacked : drawing.Stacked drawing.y
  ends : ∀ node ∈ drawing.nodes, node.box.bottom + groupGap ≤ drawing.y

/-- An entity type takes the height of its queues and a gap. -/
theorem Drawing.addEntity_y (consumers : List FlowConsumer) (drawing : Drawing) (entity : String) :
    (drawing.addEntity consumers entity).y = drawing.y + (64 * consumers.length + 14) := by
  change (consumers.foldl (addQueue entity) drawing).y + groupGap = _
  rw [addQueues_y, groupGap, add_assoc]

/-- A group of at least one queue has room for its exchange. -/
theorem Drawing.addEntity_grouped (consumers : List FlowConsumer) (some : consumers ≠ [])
    (drawing : Drawing) (entity : String) (grouped : drawing.Grouped) :
    (drawing.addEntity consumers entity).Grouped := by
  have one : (1 : ℚ) ≤ consumers.length := by
    exact_mod_cast List.length_pos_iff.mpr some
  have filled := addQueues_stacked entity consumers drawing drawing.y grouped.lower grouped.stacked
  have offset := addQueues_y entity consumers drawing
  have later := addEntity_y consumers drawing entity
  have lower := grouped.lower
  have gap : groupGap = 14 := rfl
  have small : queueGap = 6 := rfl
  -- the exchange reaches from behind the start of the group to before its end
  have above : drawing.y < (drawing.y + (consumers.foldl (addQueue entity) drawing).y -
      queueGap) / 2 - 22 := by linarith only [offset, one, small]
  have ends : (drawing.y + (consumers.foldl (addQueue entity) drawing).y - queueGap) / 2 - 22 +
      44 + groupGap ≤ (drawing.addEntity consumers entity).y := by
    linarith only [offset, later, one, small, gap]
  have each : ∀ node ∈ (drawing.addEntity consumers entity).nodes,
      node.Placed (drawing.addEntity consumers entity).y (drawing.addEntity consumers entity).y ∧
        node.box.bottom + groupGap ≤ (drawing.addEntity consumers entity).y := by
    intro node member
    rcases List.mem_append.mp member with inside | last
    · have placed := filled.placed node inside
      refine ⟨placed.lower _ _ (by linarith only [later, one]) (by linarith only [later, offset]), ?_⟩
      rcases placed.ends with ⟨_, queue⟩ | ⟨_, exchange⟩
      · linarith only [queue, later, offset, small, gap]
      · linarith only [exchange, later, one]
    · rw [List.mem_singleton.mp last]
      exact ⟨⟨node_standing _ _ _, lower.trans above.le, .inr ⟨rfl, ends⟩⟩, ends⟩
  refine ⟨by linarith only [lower, later, one], ⟨?_, fun node member => (each node member).1⟩,
    fun node member => (each node member).2⟩
  apply filled.below _ (node_standing _ _ _)
  intro node member exchange
  refine lt_trans ?_ above
  rcases (filled.placed node member).ends with ⟨queue, _⟩ | ⟨_, before⟩
  · exact absurd (queue.symm.trans exchange) Kind.noConfusion
  · linarith only [before, gap]

/-- The queues of a pipeline are grouped by their entity types. -/
theorem FlowPipeline.drawing_grouped (pipeline : FlowPipeline) (some : pipeline.consumers ≠ []) :
    pipeline.drawing.Grouped := by
  have kept (entities : List String) (drawing : Drawing) (grouped : drawing.Grouped) :
      (entities.foldl (Drawing.addEntity pipeline.consumers) drawing).Grouped := by
    induction entities generalizing drawing with
    | nil => exact grouped
    | cons entity entities ih =>
        exact ih _ (Drawing.addEntity_grouped pipeline.consumers some drawing entity grouped)
  apply kept
  refine ⟨le_rfl, ⟨List.Pairwise.nil, ?_⟩, ?_⟩
  · intro node member
    exact absurd member List.not_mem_nil
  · intro node member
    exact absurd member List.not_mem_nil

/-- The height of a drawing is the height of its groups. -/
theorem FlowPipeline.drawing_y (pipeline : FlowPipeline) :
    pipeline.drawing.y =
      top + pipeline.entityTypes.length * (64 * pipeline.consumers.length + 14) := by
  have added (entities : List String) (drawing : Drawing) :
      (entities.foldl (Drawing.addEntity pipeline.consumers) drawing).y =
        drawing.y + entities.length * (64 * pipeline.consumers.length + 14) := by
    induction entities generalizing drawing with
    | nil => simp
    | cons entity entities ih =>
        rw [List.foldl_cons, ih, Drawing.addEntity_y, List.length_cons]
        push_cast
        linarith
  exact added pipeline.entityTypes Drawing.start

end Stacking

section Columns

variable (pipeline : FlowPipeline)

/-- The drawing has room for every consumer and for the producer. -/
theorem FlowPipeline.height_bounds (entities : pipeline.entityTypes ≠ []) :
    64 * pipeline.consumers.length ≤ pipeline.height - top ∧ 80 ≤ pipeline.height - top := by
  have one : (1 : ℚ) ≤ pipeline.entityTypes.length := by
    exact_mod_cast List.length_pos_iff.mpr entities
  have group : (0 : ℚ) ≤ 64 * pipeline.consumers.length + 14 := by positivity
  have offset := pipeline.drawing_y
  have product := mul_le_mul_of_nonneg_right one group
  have left := le_max_left (pipeline.drawing.y - groupGap) (top + 80)
  have right := le_max_right (pipeline.drawing.y - groupGap) (top + 80)
  have gap : groupGap = 14 := rfl
  unfold height
  constructor
  · linarith only [offset, product, left, gap]
  · linarith only [right]

/-- A column of boxes of one height is spread over the drawing. -/
def FlowPipeline.spreadNodes {α : Type} (half : ℚ) (subject : α → Subject) (items : List α) :
    List Node :=
  items.mapIdx fun i item =>
    node (subject item) (pipeline.spread items.length i - half) (2 * half)

/-- The nodes keep apart in their columns, below the headings and within the height. -/
structure FlowPipeline.Drawn (nodes : List Node) : Prop where
  apart : nodes.Pairwise fun first second => first.box.Apart second.box
  standing : ∀ node ∈ nodes, node.Standing
  low : ∀ node ∈ nodes, top ≤ node.box.y
  high : ∀ node ∈ nodes, node.box.bottom ≤ pipeline.height

/-- Two drawn lists of different kinds are drawn together. -/
theorem FlowPipeline.Drawn.append {pipeline : FlowPipeline} {first second : List Node}
    (one : pipeline.Drawn first) (two : pipeline.Drawn second)
    (different : ∀ node ∈ first, ∀ other ∈ second, node.subject.kind ≠ other.subject.kind) :
    pipeline.Drawn (first ++ second) where
  apart := by
    rw [List.pairwise_append]
    refine ⟨one.apart, two.apart, ?_⟩
    intro node member other inside
    exact Node.apart_of_kind node other (one.standing node member) (two.standing other inside)
      (different node member other inside)
  standing node member := (List.mem_append.mp member).elim (one.standing node) (two.standing node)
  low node member := (List.mem_append.mp member).elim (one.low node) (two.low node)
  high node member := (List.mem_append.mp member).elim (one.high node) (two.high node)

/-- The queues of a pipeline are drawn apart. -/
theorem FlowPipeline.drawing_drawn (consumers : pipeline.consumers ≠ []) :
    pipeline.Drawn pipeline.drawing.nodes := by
  have grouped := pipeline.drawing_grouped consumers
  have left := le_max_left (pipeline.drawing.y - groupGap) (top + 80)
  refine ⟨grouped.stacked.apart, ?_, ?_, ?_⟩
  · intro node member
    exact (grouped.stacked.placed node member).standing
  · intro node member
    exact (grouped.stacked.placed node member).low
  · intro node member
    have ends := grouped.ends node member
    unfold height
    linarith only [ends, left]

/-- An even spread keeps its boxes apart if its places are higher than they are. -/
theorem FlowPipeline.spreadNodes_drawn {α : Type} (half : ℚ) (subject : α → Subject)
    (items : List α) (lower : top ≤ pipeline.height)
    (fits : 2 * half * items.length ≤ pipeline.height - top)
    (roomy : 1 < items.length → 2 * half * items.length < pipeline.height - top) :
    pipeline.Drawn (pipeline.spreadNodes half subject items) := by
  have count (some : 0 < items.length) : (0 : ℚ) < items.length := by exact_mod_cast some
  have place (some : 0 < items.length) := (le_div_iff₀ (count some)).mpr fits
  constructor
  · rw [List.pairwise_iff_getElem]
    intro first second one two earlier
    unfold spreadNodes at one two ⊢
    rw [List.length_mapIdx] at one two
    have room := (lt_div_iff₀ (count (by omega))).mpr (roomy (by omega))
    have step := spreadMiddle_step top pipeline.height items.length first second lower earlier
    rw [List.getElem_mapIdx, List.getElem_mapIdx]
    apply Box.apart_of_above
    change spreadMiddle top pipeline.height items.length first - half + 2 * half <
      spreadMiddle top pipeline.height items.length second - half
    linarith only [step, room]
  · intro node member
    obtain ⟨index, inside, rfl⟩ := List.mem_mapIdx.mp member
    exact node_standing _ _ _
  · intro node member
    obtain ⟨index, inside, rfl⟩ := List.mem_mapIdx.mp member
    have room := place (by omega)
    have first := spreadMiddle_top top pipeline.height items.length index lower
    change top ≤ spreadMiddle top pipeline.height items.length index - half
    linarith only [first, room]
  · intro node member
    obtain ⟨index, inside, rfl⟩ := List.mem_mapIdx.mp member
    have room := place (by omega)
    have last := spreadMiddle_bottom top pipeline.height items.length index lower inside
    change spreadMiddle top pipeline.height items.length index - half + 2 * half ≤ _
    linarith only [last, room]

/-- The producer is spread over its column. -/
theorem FlowPipeline.producerNode_spread :
    [pipeline.producerNode] = pipeline.spreadNodes 40 (fun _ => .producer) [()] := by
  have tall : (2 : ℚ) * 40 = 80 := by norm_num
  unfold spreadNodes producerNode
  rw [tall]
  rfl

/-- The consumers are spread over their column. -/
theorem FlowPipeline.consumerNodes_spread : pipeline.consumerNodes =
    pipeline.spreadNodes 26 (fun consumer => .consumer consumer.name) pipeline.consumers := by
  have tall : (2 : ℚ) * 26 = 52 := by norm_num
  unfold spreadNodes
  rw [tall]
  rfl

/-- The stores are spread over their column. -/
theorem FlowPipeline.storeNodes_spread :
    pipeline.storeNodes = pipeline.spreadNodes 22 .datastore pipeline.stores := by
  have tall : (2 : ℚ) * 22 = 44 := by norm_num
  unfold spreadNodes
  rw [tall]
  rfl

/-- There are no more stores than consumers. -/
theorem FlowPipeline.stores_length : pipeline.stores.length ≤ pipeline.consumers.length := by
  have fewer := length_eraseDups_le (pipeline.consumers.map FlowConsumer.datastore)
  rw [List.length_map] at fewer
  exact fewer

theorem FlowPipeline.consumerNodes_kind (node : Node) (member : node ∈ pipeline.consumerNodes) :
    node.subject.kind = .consumer := by
  obtain ⟨index, inside, rfl⟩ := List.mem_mapIdx.mp member
  rfl

theorem FlowPipeline.storeNodes_kind (node : Node) (member : node ∈ pipeline.storeNodes) :
    node.subject.kind = .datastore := by
  obtain ⟨index, inside, rfl⟩ := List.mem_mapIdx.mp member
  rfl

/-- All nodes of a pipeline are drawn apart. -/
theorem FlowPipeline.nodes_drawn (entities : pipeline.entityTypes ≠ [])
    (consumers : pipeline.consumers ≠ []) : pipeline.Drawn pipeline.nodes := by
  obtain ⟨roomy, high⟩ := pipeline.height_bounds entities
  have lower : top ≤ pipeline.height := by linarith only [high]
  have one : (1 : ℚ) ≤ pipeline.consumers.length := by
    exact_mod_cast List.length_pos_iff.mpr consumers
  have fewer : (pipeline.stores.length : ℚ) ≤ pipeline.consumers.length := by
    exact_mod_cast pipeline.stores_length
  have produced : pipeline.Drawn [pipeline.producerNode] := by
    rw [pipeline.producerNode_spread]
    apply pipeline.spreadNodes_drawn 40 _ _ lower
    · rw [List.length_singleton, Nat.cast_one]
      linarith only [high]
    · intro several
      exact absurd several (lt_irrefl 1)
  have consumed : pipeline.Drawn pipeline.consumerNodes := by
    rw [pipeline.consumerNodes_spread]
    have room : 2 * 26 * pipeline.consumers.length < pipeline.height - top := by
      linarith only [roomy, one]
    exact pipeline.spreadNodes_drawn 26 _ _ lower room.le fun _ => room
  have stored : pipeline.Drawn pipeline.storeNodes := by
    rw [pipeline.storeNodes_spread]
    have room : 2 * 22 * pipeline.stores.length < pipeline.height - top := by
      linarith only [roomy, one, fewer]
    exact pipeline.spreadNodes_drawn 22 _ _ lower room.le fun _ => room
  have kinds (node : Node) (member : node ∈ pipeline.drawing.nodes) :
      node.subject.kind = .queue ∨ node.subject.kind = .exchange :=
    (((pipeline.drawing_grouped consumers).stacked.placed node member).ends).imp
      And.left And.left
  have producer : pipeline.producerNode.subject.kind = .producer := rfl
  refine (((pipeline.drawing_drawn consumers).append produced ?_).append consumed ?_).append
    stored ?_
  · intro node member other single
    rw [List.mem_singleton.mp single, producer]
    rcases kinds node member with kind | kind <;> rw [kind] <;> decide
  · intro node member other inside
    rw [pipeline.consumerNodes_kind other inside]
    rcases List.mem_append.mp member with earlier | single
    · rcases kinds node earlier with kind | kind <;> rw [kind] <;> decide
    · rw [List.mem_singleton.mp single, producer]
      decide
  · intro node member other inside
    rw [pipeline.storeNodes_kind other inside]
    rcases List.mem_append.mp member with earlier | late
    · rcases List.mem_append.mp earlier with first | single
      · rcases kinds node first with kind | kind <;> rw [kind] <;> decide
      · rw [List.mem_singleton.mp single, producer]
        decide
    · rw [pipeline.consumerNodes_kind node late]
      decide

end Columns

end OperationsConsole.Browser.TopologyFlow
