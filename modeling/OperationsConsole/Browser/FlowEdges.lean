/-
This file shows that the flow of every pipeline is drawn correctly.
The edges follow the messages from the producer to the datastores.
-/

import OperationsConsole.Browser.FlowGeometry
import OperationsConsole.Browser.FlowKeys

namespace OperationsConsole.Browser.TopologyFlow

open Library

section Edges

variable (pipeline : FlowPipeline)

/-- These are the joints of a pipeline in the order of its edges. -/
def FlowPipeline.joints : List (Subject × Subject) :=
  (pipeline.entityTypes.map fun entity => (.producer, .exchange entity)) ++
  (pipeline.queueNames.flatMap fun names =>
    [(.exchange names.2, queueSubject names), (queueSubject names, .consumer names.1)]) ++
  pipeline.consumers.map fun consumer => (.consumer consumer.name, .datastore consumer.datastore)

/-- The ends of an edge are the nodes of a joint. -/
def FlowPipeline.Resolves (ends : Option Node × Option Node) (joint : Subject × Subject) : Prop :=
  ∃ first ∈ pipeline.nodes, ∃ second ∈ pipeline.nodes, ends = (some first, some second) ∧
    first.subject = joint.1 ∧ second.subject = joint.2

/-- The node at the index of an item shows it. -/
theorem node_at {α : Type} (nodes : List Node) (items : List α) (subject : α → Subject)
    (listed : nodes.map Node.subject = items.map subject) (index : ℕ) (item : α)
    (found : items[index]? = some item) :
    ∃ node ∈ nodes, nodes[index]? = some node ∧ node.subject = subject item := by
  have same := congrArg (·[index]?) listed
  simp only [List.getElem?_map, found, Option.map_some, Option.map_eq_some_iff] at same
  obtain ⟨node, place, shows⟩ := same
  exact ⟨node, List.mem_of_getElem? place, place, shows⟩

/-- Nodes that are listed for items show them one by one. -/
theorem listed_pairs {α : Type} (nodes : List Node) (items : List α) (subject : α → Subject)
    (listed : nodes.map Node.subject = items.map subject) :
    List.Forall₂ (fun node item => node ∈ nodes ∧ item ∈ items ∧ node.subject = subject item)
      nodes items := by
  have same : List.Forall₂ (· = ·) (nodes.map Node.subject) (items.map subject) := by
    rw [listed, List.forall₂_eq_eq_eq]
  rw [List.forall₂_map_left_iff, List.forall₂_map_right_iff] at same
  obtain ⟨lengths, each⟩ := List.forall₂_iff_zip.mp same
  refine List.forall₂_iff_zip.mpr ⟨lengths, ?_⟩
  intro node item member
  obtain ⟨inside, present⟩ := List.of_mem_zip member
  exact ⟨inside, present, each member⟩

theorem FlowPipeline.queueNodes_subset : pipeline.drawing.queueNodes ⊆ pipeline.nodes := by
  intro node member
  have drawn := pipeline.drawing_lists.perm.subset (List.mem_append_left _ member)
  simp only [nodes, List.mem_append]
  exact .inl (.inl (.inl drawn))

theorem FlowPipeline.exchanges_subset : pipeline.drawing.exchanges ⊆ pipeline.nodes := by
  intro node member
  have drawn := pipeline.drawing_lists.perm.subset (List.mem_append_right _ member)
  simp only [nodes, List.mem_append]
  exact .inl (.inl (.inl drawn))

theorem FlowPipeline.consumerNodes_subset : pipeline.consumerNodes ⊆ pipeline.nodes := by
  intro node member
  simp only [nodes, List.mem_append]
  exact .inl (.inr member)

/-- The exchange of a queue is a node of its pipeline. -/
theorem FlowPipeline.exchangeOf_queue (queue : Node) (names : String × String)
    (shows : queue.subject = queueSubject names) (member : names ∈ pipeline.queueNames) :
    ∃ exchange ∈ pipeline.nodes, pipeline.exchangeOf queue = some exchange ∧
      exchange.subject = .exchange names.2 := by
  obtain ⟨present, _⟩ := (pipeline.mem_queueNames_iff names).mp member
  have own (entity : String) : queue.subject.entity = some entity ↔ names.2 = entity := by
    rw [shows]
    exact Option.some_inj
  obtain ⟨entity, place, same⟩ := getElem?_findIdx
    (fun entity => decide (queue.subject.entity = some entity)) pipeline.entityTypes names.2
    present (decide_eq_true ((own names.2).mpr rfl))
  obtain ⟨exchange, inside, found, subject⟩ := node_at pipeline.drawing.exchanges
    pipeline.entityTypes .exchange pipeline.drawing_lists.exchangeSubjects _ entity place
  rw [← (own entity).mp (of_decide_eq_true same)] at subject
  exact ⟨exchange, pipeline.exchanges_subset inside, found, subject⟩

/-- The consumer of a queue is a node of its pipeline. -/
theorem FlowPipeline.consumerOf_queue (queue : Node) (names : String × String)
    (shows : queue.subject = queueSubject names) (member : names ∈ pipeline.queueNames) :
    ∃ consumer ∈ pipeline.nodes, pipeline.consumerOf queue = some consumer ∧
      consumer.subject = .consumer names.1 := by
  obtain ⟨_, listed⟩ := (pipeline.mem_queueNames_iff names).mp member
  obtain ⟨reader, reads, name⟩ := List.mem_map.mp listed
  have own (consumer : FlowConsumer) :
      queue.subject.consumerName = some consumer.name ↔ names.1 = consumer.name := by
    rw [shows]
    exact Option.some_inj
  obtain ⟨other, place, same⟩ := getElem?_findIdx
    (fun consumer => decide (queue.subject.consumerName = some consumer.name)) pipeline.consumers
    reader reads (decide_eq_true ((own reader).mpr name.symm))
  obtain ⟨consumer, inside, found, subject⟩ := node_at pipeline.consumerNodes pipeline.consumers
    _ pipeline.consumerNodes_subjects _ other place
  rw [← (own other).mp (of_decide_eq_true same)] at subject
  exact ⟨consumer, pipeline.consumerNodes_subset inside, found, subject⟩

/-- The store of a consumer is a node of its pipeline. -/
theorem FlowPipeline.storeOf_consumer (consumer : FlowConsumer)
    (reads : consumer ∈ pipeline.consumers) :
    ∃ store ∈ pipeline.nodes,
      pipeline.storeNodes[pipeline.stores.idxOf consumer.datastore]? = some store ∧
        store.subject = .datastore consumer.datastore := by
  have listed := (pipeline.mem_stores_iff consumer.datastore).mpr ⟨consumer, reads, rfl⟩
  obtain ⟨store, inside, found, subject⟩ := node_at pipeline.storeNodes pipeline.stores .datastore
    pipeline.storeNodes_subjects _ consumer.datastore (List.getElem?_idxOf listed)
  exact ⟨store, List.mem_append_right _ inside, found, subject⟩

/-- Both ends of every edge are found, in the order of the joints. -/
theorem FlowPipeline.ends_resolve :
    List.Forall₂ pipeline.Resolves pipeline.ends pipeline.joints := by
  have producer : pipeline.producerNode ∈ pipeline.nodes :=
    List.mem_append_left _ (List.mem_append_left _ (List.mem_append_right _
      (List.mem_singleton_self _)))
  have lists := pipeline.drawing_lists
  refine List.rel_append (List.rel_append ?_ ?_) ?_
  · rw [List.forall₂_map_left_iff, List.forall₂_map_right_iff]
    refine (listed_pairs _ _ _ lists.exchangeSubjects).imp ?_
    rintro exchange entity ⟨inside, _, shows⟩
    exact ⟨_, producer, exchange, pipeline.exchanges_subset inside, rfl, rfl, shows⟩
  · refine List.rel_flatMap (listed_pairs _ _ _ lists.queueSubjects) ?_
    rintro queue names ⟨inside, present, shows⟩
    have drawn := pipeline.queueNodes_subset inside
    obtain ⟨exchange, one, exchangeFound, source⟩ := pipeline.exchangeOf_queue queue names shows present
    obtain ⟨consumer, two, consumerFound, target⟩ := pipeline.consumerOf_queue queue names shows present
    refine .cons ?_ (.cons ?_ .nil)
    · rw [exchangeFound]
      exact ⟨exchange, one, queue, drawn, rfl, source, shows⟩
    · rw [consumerFound]
      exact ⟨queue, drawn, consumer, two, rfl, shows, target⟩
  · rw [List.forall₂_iff_get]
    refine ⟨by simp, ?_⟩
    intro index one two
    rw [List.length_map] at two
    have reads : pipeline.consumers[index] ∈ pipeline.consumers := List.getElem_mem two
    obtain ⟨consumer, inside, found, source⟩ := node_at _ pipeline.consumers _
      pipeline.consumerNodes_subjects index _ (List.getElem?_eq_getElem two)
    obtain ⟨store, stored, storeFound, target⟩ := pipeline.storeOf_consumer _ reads
    refine ⟨consumer, pipeline.consumerNodes_subset inside, store, stored, ?_, ?_, ?_⟩
    · simp only [List.get_eq_getElem, List.getElem_mapIdx]
      rw [found, storeFound]
    · simpa using source
    · simpa using target

/-- The edges are drawn from the joints. -/
theorem FlowPipeline.edges_drawn : ∃ edges, pipeline.ends.mapM edgeBetween = some edges ∧
    List.Forall₂ (fun joint subjects => ∃ first ∈ pipeline.nodes, ∃ second ∈ pipeline.nodes,
      joint = edge first second ∧ first.subject = subjects.1 ∧ second.subject = subjects.2)
      edges pipeline.joints := by
  have resolved := pipeline.ends_resolve
  generalize pipeline.ends = ends at resolved
  generalize pipeline.joints = joints at resolved
  induction resolved with
  | nil => exact ⟨[], rfl, .nil⟩
  | cons head rest ih =>
      obtain ⟨first, one, second, two, found, source, target⟩ := head
      obtain ⟨edges, drawn, each⟩ := ih
      refine ⟨edge first second :: edges, ?_, .cons ⟨first, one, second, two, rfl, source, target⟩ each⟩
      rw [List.mapM_cons, drawn, found]
      rfl

/-- The joints are the pairs that belong together. -/
theorem FlowPipeline.mem_joints_iff (joint : Subject × Subject) :
    joint ∈ pipeline.joints ↔ pipeline.Joins joint.1 joint.2 := by
  unfold joints
  rw [List.mem_append, List.mem_append, List.mem_map, List.mem_flatMap, List.mem_map]
  constructor
  · rintro ((⟨entity, present, rfl⟩ | ⟨names, member, either⟩) | ⟨consumer, reads, rfl⟩)
    · exact .publishes entity present
    · obtain ⟨present, listed⟩ := (pipeline.mem_queueNames_iff names).mp member
      obtain ⟨consumer, reads, same⟩ := List.mem_map.mp listed
      rcases List.mem_pair.mp either with rfl | rfl
      · rw [queueSubject, ← same]
        exact .copies consumer reads names.2 present
      · rw [queueSubject, ← same]
        exact .delivers consumer reads names.2 present
    · exact .writes consumer reads
  · obtain ⟨first, second⟩ := joint
    intro joins
    cases joins with
    | publishes entity present => exact .inl (.inl ⟨entity, present, rfl⟩)
    | copies consumer reads entity present =>
        have member := (pipeline.mem_queueNames_iff (consumer.name, entity)).mpr
          ⟨present, List.mem_map_of_mem reads⟩
        exact .inl (.inr ⟨_, member, List.mem_cons_self⟩)
    | delivers consumer reads entity present =>
        have member := (pipeline.mem_queueNames_iff (consumer.name, entity)).mpr
          ⟨present, List.mem_map_of_mem reads⟩
        exact .inl (.inr ⟨_, member, List.mem_cons_of_mem _ List.mem_cons_self⟩)
    | writes consumer reads => exact .inr ⟨consumer, reads, rfl⟩

/-- A well named pipeline has each joint once. -/
theorem FlowPipeline.joints_nodup (named : pipeline.WellNamed) : pipeline.joints.Nodup := by
  have published : (pipeline.entityTypes.map fun entity =>
      (Subject.producer, Subject.exchange entity)).Nodup :=
    named.distinctEntities.map fun _ _ same => Subject.exchange.inj (congrArg Prod.snd same)
  have queued : (pipeline.queueNames.flatMap fun names =>
      [(Subject.exchange names.2, queueSubject names),
        (queueSubject names, Subject.consumer names.1)]).Nodup := by
    rw [List.nodup_flatMap]
    constructor
    · intro names _
      simp [queueSubject]
    · refine (pipeline.queueNames_nodup named).imp ?_
      rintro ⟨first, entity⟩ ⟨second, other⟩ different joint one two
      simp only [List.mem_pair, queueSubject] at one two
      grind
  have written : (pipeline.consumers.map fun consumer =>
      (Subject.consumer consumer.name, Subject.datastore consumer.datastore)).Nodup := by
    refine List.Nodup.of_map (fun joint => joint.1.consumerName.getD "") ?_
    rw [List.map_map]
    exact named.distinctConsumers
  refine (published.append queued ?_).append written ?_
  all_goals
    rw [List.disjoint_left]
    intro joint first second
    simp only [List.mem_append, List.mem_map, List.mem_flatMap, List.mem_pair, queueSubject]
      at first second
    grind

/-- Both ends of a joint are shown. -/
theorem FlowPipeline.Joins.shown {pipeline : FlowPipeline} {first second : Subject}
    (joins : pipeline.Joins first second) : pipeline.Shows first ∧ pipeline.Shows second ∧
      first.kind ≠ .datastore := by
  cases joins with
  | publishes entity present =>
      exact ⟨.producer, .exchange entity present, Kind.noConfusion⟩
  | copies consumer reads entity present =>
      exact ⟨.exchange entity present, .queue consumer reads entity present, Kind.noConfusion⟩
  | delivers consumer reads entity present =>
      exact ⟨.queue consumer reads entity present, .consumer consumer reads, Kind.noConfusion⟩
  | writes consumer reads =>
      exact ⟨.consumer consumer reads, .datastore consumer reads, Kind.noConfusion⟩

/-- Different things have different keys. -/
theorem FlowPipeline.nodeKeys_nodup (named : pipeline.WellNamed) :
    (pipeline.nodes.map Node.key).Nodup := by
  change (pipeline.nodes.map (Subject.key ∘ Node.subject)).Nodup
  rw [← List.map_map, (pipeline.nodes_subjects.map Subject.key).nodup_iff]
  refine (pipeline.subjects_nodup named).map_on ?_
  intro first member second inside
  have one := (pipeline.mem_subjects_iff first).mp member
  have two := (pipeline.mem_subjects_iff second).mp inside
  exact first.key_injective second (one.readable named) (two.readable named)

/-- Different joints have different keys. -/
theorem FlowPipeline.jointKeys_nodup (named : pipeline.WellNamed) :
    (pipeline.joints.map fun joint => joint.1.key ++ ">" ++ joint.2.key).Nodup := by
  refine (pipeline.joints_nodup named).map_on ?_
  intro joint member other inside same
  obtain ⟨one, two, inner⟩ := ((pipeline.mem_joints_iff joint).mp member).shown
  obtain ⟨three, four, within⟩ := ((pipeline.mem_joints_iff other).mp inside).shown
  obtain ⟨froms, tos⟩ := Subject.edgeKey_injective _ _ _ _
    ⟨one.readable named, two.readable named⟩ ⟨three.readable named, four.readable named⟩
    ⟨inner, within⟩ same
  exact Prod.ext froms tos

/-- Every drawn node is inside the drawing. -/
theorem FlowPipeline.Drawn.inside {pipeline : FlowPipeline} {nodes : List Node}
    (drawn : pipeline.Drawn nodes) :
    ∀ node ∈ nodes, node.box.Inside width pipeline.height := by
  intro node member
  have standing := drawn.standing node member
  obtain ⟨left, right⟩ := node.subject.kind.within
  have headings : (0 : ℚ) ≤ top := by norm_num [top]
  refine ⟨?_, ?_, headings.trans (drawn.low node member), drawn.high node member⟩
  · rw [standing.x]
    exact left
  · rw [Box.right, standing.x, standing.w]
    exact right

/-- Edges that are drawn from the joints carry the keys of their ends. -/
theorem FlowPipeline.edges_keys (edges : List Edge)
    (each : List.Forall₂ (fun joint subjects => ∃ first ∈ pipeline.nodes,
      ∃ second ∈ pipeline.nodes, joint = edge first second ∧ first.subject = subjects.1 ∧
        second.subject = subjects.2) edges pipeline.joints) :
    edges.map (fun edge => (edge.fromKey, edge.toKey)) =
        pipeline.joints.map (fun joint => (joint.1.key, joint.2.key)) ∧
      edges.map Edge.key =
        pipeline.joints.map (fun joint => joint.1.key ++ ">" ++ joint.2.key) := by
  constructor
  · apply map_eq_of_forall₂ each
    rintro joint subjects ⟨first, _, second, _, rfl, source, target⟩
    rw [← source, ← target]
    rfl
  · apply map_eq_of_forall₂ each
    rintro joint subjects ⟨first, _, second, _, rfl, source, target⟩
    rw [← source, ← target]
    rfl

end Edges

/-- Every pipeline with readable names is drawn correctly. -/
theorem layout_correct (pipeline : FlowPipeline) (named : pipeline.WellNamed) :
    ∃ drawn, layout pipeline = some drawn ∧ pipeline.Correct drawn := by
  obtain ⟨edges, found, each⟩ := pipeline.edges_drawn
  obtain ⟨ends, keys⟩ := pipeline.edges_keys edges each
  have boxes := pipeline.nodes_drawn named.entities named.consumers
  have told : (edges.map Edge.key).Nodup := by
    rw [keys]
    exact pipeline.jointKeys_nodup named
  refine ⟨_, by rw [layout, found]; rfl, ?_⟩
  exact {
    apart := boxes.apart
    inside := boxes.inside
    nodeKeys := pipeline.nodeKeys_nodup named
    edgeKeys := told
    shown := fun subject =>
      pipeline.nodes_subjects.mem_iff.trans (pipeline.mem_subjects_iff subject)
    joined := by
      intro joint
      change joint ∈ edges.map (fun edge => (edge.fromKey, edge.toKey)) ↔ _
      rw [ends, List.mem_map]
      constructor
      · rintro ⟨pair, member, rfl⟩
        exact ⟨pair.1, pair.2, (pipeline.mem_joints_iff pair).mp member, rfl⟩
      · rintro ⟨first, second, joins, rfl⟩
        exact ⟨(first, second), (pipeline.mem_joints_iff (first, second)).mpr joins, rfl⟩
    once := by
      change (edges.map fun edge => (edge.fromKey, edge.toKey)).Nodup
      refine List.Nodup.of_map (fun pair => pair.1 ++ ">" ++ pair.2) ?_
      rw [ends, List.map_map]
      exact keys ▸ told
    attached := by
      intro joint member
      obtain ⟨index, bound, rfl⟩ := List.getElem_of_mem member
      obtain ⟨first, one, second, two, drawn, _⟩ := each.get bound (each.length_eq ▸ bound)
      exact ⟨first, one, second, two, drawn⟩ }

/-- Two consumers of one entity type share a datastore. -/
theorem layout_shared : ∃ drawn, layout ⟨["artists"], [⟨"first", "neo4j"⟩, ⟨"second", "neo4j"⟩]⟩ =
    some drawn ∧ FlowPipeline.Correct
      ⟨["artists"], [⟨"first", "neo4j"⟩, ⟨"second", "neo4j"⟩]⟩ drawn :=
  layout_correct _
    { entities := by decide
      consumers := by decide
      distinctEntities := by decide
      distinctConsumers := by decide
      readableEntities := by decide +kernel
      readableConsumers := by decide +kernel }

end OperationsConsole.Browser.TopologyFlow
