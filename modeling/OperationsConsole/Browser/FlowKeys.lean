/-
This file states when the flow of a pipeline is drawn correctly, and tells its keys apart.
Each thing of a pipeline has one node.
-/

import OperationsConsole.Browser.TopologyFlow

namespace OperationsConsole.Browser.TopologyFlow

open Library

section Keys

/-- The names of a subject leave its key readable. A datastore may have any name. -/
def Subject.Readable : Subject → Prop
  | .producer => True
  | .exchange entity => ':' ∉ entity.toList ∧ '>' ∉ entity.toList
  | .queue name entity => (':' ∉ name.toList ∧ '>' ∉ name.toList) ∧
      ':' ∉ entity.toList ∧ '>' ∉ entity.toList
  | .consumer name => ':' ∉ name.toList ∧ '>' ∉ name.toList
  | .datastore _ => True

/-- Readable subjects are told apart by their keys. -/
theorem Subject.key_injective (first second : Subject) (one : first.Readable)
    (two : second.Readable) (same : first.key = second.key) : first = second := by
  have letters := congrArg String.toList same
  cases first with
  | producer => cases second <;> simp [key] at letters ⊢
  | exchange entity =>
      cases second <;> simp [key] at letters ⊢
      exact String.toList_injective letters
  | queue name entity =>
      cases second <;> simp [key] at letters ⊢
      rename_i other type
      obtain ⟨names, entities⟩ := divided_first ':' _ _ _ _ one.1.1 two.1.1 letters
      exact ⟨String.toList_injective names, String.toList_injective entities⟩
  | consumer name =>
      cases second <;> simp [key] at letters ⊢
      exact String.toList_injective letters
  | datastore name =>
      cases second <;> simp [key] at letters ⊢
      exact String.toList_injective letters

/-- Only the key of a datastore can hold the sign between the keys of an edge. -/
theorem Subject.key_clear (subject : Subject) (readable : subject.Readable)
    (inner : subject.kind ≠ .datastore) : '>' ∉ subject.key.toList := by
  cases subject with
  | producer => decide
  | exchange entity => simpa [key] using readable.2
  | queue name entity => simpa [key] using ⟨readable.1.2, readable.2.2⟩
  | consumer name => simpa [key] using readable.2
  | datastore name => exact absurd rfl inner

/-- The key of an edge tells both of its ends. -/
theorem Subject.edgeKey_injective (first second third fourth : Subject)
    (readable : first.Readable ∧ second.Readable) (other : third.Readable ∧ fourth.Readable)
    (inner : first.kind ≠ .datastore ∧ third.kind ≠ .datastore)
    (same : first.key ++ ">" ++ second.key = third.key ++ ">" ++ fourth.key) :
    first = third ∧ second = fourth := by
  have letters := congrArg String.toList same
  simp only [String.toList_append, List.append_assoc] at letters
  obtain ⟨froms, tos⟩ := divided_first '>' _ _ _ _ (first.key_clear readable.1 inner.1)
    (third.key_clear other.1 inner.2) letters
  exact ⟨first.key_injective third readable.1 other.1 (String.toList_injective froms),
    second.key_injective fourth readable.2 other.2 (String.toList_injective tos)⟩

end Keys

section Listing

/-- These are the queues of a pipeline in the order of the drawing. -/
def FlowPipeline.queueNames (pipeline : FlowPipeline) : List (String × String) :=
  pipeline.entityTypes.flatMap fun entity =>
    pipeline.consumers.map fun consumer => (consumer.name, entity)

def queueSubject (names : String × String) : Subject := .queue names.1 names.2

/-- The drawing lists the queues and the exchanges among all its nodes. -/
structure Drawing.Lists (drawing : Drawing) (queues : List (String × String))
    (entities : List String) : Prop where
  queueSubjects : drawing.queueNodes.map Node.subject = queues.map queueSubject
  exchangeSubjects : drawing.exchanges.map Node.subject = entities.map Subject.exchange
  perm : (drawing.queueNodes ++ drawing.exchanges).Perm drawing.nodes

/-- A new queue is listed last. -/
theorem Drawing.addQueue_lists (entity : String) (drawing : Drawing) (consumer : FlowConsumer)
    (queues : List (String × String)) (entities : List String)
    (lists : drawing.Lists queues entities) :
    (drawing.addQueue entity consumer).Lists (queues ++ [(consumer.name, entity)]) entities where
  queueSubjects := by
    rw [addQueue, List.map_append, lists.queueSubjects, List.map_append]
    rfl
  exchangeSubjects := lists.exchangeSubjects
  perm := by
    change (drawing.queueNodes ++ [_] ++ drawing.exchanges).Perm (drawing.nodes ++ [_])
    rw [List.append_assoc, List.singleton_append]
    exact List.perm_middle.trans ((lists.perm.cons _).trans (List.perm_append_singleton _ _).symm)

/-- The queues of an entity type are listed in the order of the consumers. -/
theorem Drawing.addQueues_lists (entity : String) (consumers : List FlowConsumer)
    (drawing : Drawing) (queues : List (String × String)) (entities : List String)
    (lists : drawing.Lists queues entities) :
    (consumers.foldl (addQueue entity) drawing).Lists
      (queues ++ consumers.map fun consumer => (consumer.name, entity)) entities := by
  induction consumers generalizing drawing queues with
  | nil =>
      rw [List.map_nil, List.append_nil]
      exact lists
  | cons consumer consumers ih =>
      have added := ih _ _ (addQueue_lists entity drawing consumer queues entities lists)
      rw [List.append_assoc, List.singleton_append] at added
      exact added

/-- A new entity type is listed last, after its queues. -/
theorem Drawing.addEntity_lists (consumers : List FlowConsumer) (drawing : Drawing)
    (entity : String) (queues : List (String × String)) (entities : List String)
    (lists : drawing.Lists queues entities) :
    (drawing.addEntity consumers entity).Lists
      (queues ++ consumers.map fun consumer => (consumer.name, entity))
      (entities ++ [entity]) := by
  have filled := addQueues_lists entity consumers drawing queues entities lists
  refine ⟨filled.queueSubjects, ?_, ?_⟩
  · rw [addEntity, List.map_append, filled.exchangeSubjects, List.map_append]
    rfl
  · rw [addEntity, ← List.append_assoc]
    exact filled.perm.append_right _

/-- A drawing lists the queues and the entity types of its pipeline. -/
theorem FlowPipeline.drawing_lists (pipeline : FlowPipeline) :
    pipeline.drawing.Lists pipeline.queueNames pipeline.entityTypes := by
  have kept (later : List String) (drawing : Drawing) (queues : List (String × String))
      (entities : List String) (lists : drawing.Lists queues entities) :
      (later.foldl (Drawing.addEntity pipeline.consumers) drawing).Lists
        (queues ++ later.flatMap fun entity =>
          pipeline.consumers.map fun consumer => (consumer.name, entity))
        (entities ++ later) := by
    induction later generalizing drawing queues entities with
    | nil =>
        rw [List.flatMap_nil, List.append_nil, List.append_nil]
        exact lists
    | cons entity later ih =>
        have added := ih _ _ _
          (Drawing.addEntity_lists pipeline.consumers drawing entity queues entities lists)
        rw [List.append_assoc, List.append_assoc, List.singleton_append] at added
        exact added
  exact kept pipeline.entityTypes Drawing.start [] [] ⟨rfl, rfl, .refl _⟩

variable (pipeline : FlowPipeline)

theorem FlowPipeline.consumerNodes_subjects : pipeline.consumerNodes.map Node.subject =
    pipeline.consumers.map fun consumer => .consumer consumer.name := by
  apply List.ext_getElem?
  intro index
  simp [consumerNodes, node, Function.comp_def]

theorem FlowPipeline.storeNodes_subjects :
    pipeline.storeNodes.map Node.subject = pipeline.stores.map .datastore := by
  apply List.ext_getElem?
  intro index
  simp [storeNodes, node, Function.comp_def]

/-- The things of a pipeline, each of which has one node. -/
def FlowPipeline.subjects : List Subject :=
  pipeline.queueNames.map queueSubject ++ pipeline.entityTypes.map .exchange ++ [.producer] ++
    (pipeline.consumers.map fun consumer => .consumer consumer.name) ++
    pipeline.stores.map .datastore

/-- The nodes of a pipeline stand for its subjects, each of them once. -/
theorem FlowPipeline.nodes_subjects :
    (pipeline.nodes.map Node.subject).Perm pipeline.subjects := by
  have lists := pipeline.drawing_lists
  have drawn := lists.perm.map Node.subject
  rw [List.map_append, lists.queueSubjects, lists.exchangeSubjects] at drawn
  unfold nodes subjects
  rw [List.map_append, List.map_append, List.map_append, pipeline.consumerNodes_subjects,
    pipeline.storeNodes_subjects]
  exact ((drawn.symm.append_right _).append_right _).append_right _

end Listing

section Purpose

/-- A pipeline has entity types and consumers, whose names tell them apart in the keys. -/
structure FlowPipeline.WellNamed (pipeline : FlowPipeline) : Prop where
  entities : pipeline.entityTypes ≠ []
  consumers : pipeline.consumers ≠ []
  distinctEntities : pipeline.entityTypes.Nodup
  distinctConsumers : (pipeline.consumers.map FlowConsumer.name).Nodup
  readableEntities : ∀ entity ∈ pipeline.entityTypes,
    ':' ∉ entity.toList ∧ '>' ∉ entity.toList
  readableConsumers : ∀ consumer ∈ pipeline.consumers,
    ':' ∉ consumer.name.toList ∧ '>' ∉ consumer.name.toList

/-- The drawing of a pipeline shows these things. -/
inductive FlowPipeline.Shows (pipeline : FlowPipeline) : Subject → Prop
  | producer : pipeline.Shows .producer
  | exchange (entity : String) (present : entity ∈ pipeline.entityTypes) :
      pipeline.Shows (.exchange entity)
  | queue (consumer : FlowConsumer) (reads : consumer ∈ pipeline.consumers) (entity : String)
      (present : entity ∈ pipeline.entityTypes) : pipeline.Shows (.queue consumer.name entity)
  | consumer (consumer : FlowConsumer) (reads : consumer ∈ pipeline.consumers) :
      pipeline.Shows (.consumer consumer.name)
  | datastore (consumer : FlowConsumer) (reads : consumer ∈ pipeline.consumers) :
      pipeline.Shows (.datastore consumer.datastore)

/-- The messages of a pipeline flow along these joints. -/
inductive FlowPipeline.Joins (pipeline : FlowPipeline) : Subject → Subject → Prop
  | publishes (entity : String) (present : entity ∈ pipeline.entityTypes) :
      pipeline.Joins .producer (.exchange entity)
  | copies (consumer : FlowConsumer) (reads : consumer ∈ pipeline.consumers) (entity : String)
      (present : entity ∈ pipeline.entityTypes) :
      pipeline.Joins (.exchange entity) (.queue consumer.name entity)
  | delivers (consumer : FlowConsumer) (reads : consumer ∈ pipeline.consumers) (entity : String)
      (present : entity ∈ pipeline.entityTypes) :
      pipeline.Joins (.queue consumer.name entity) (.consumer consumer.name)
  | writes (consumer : FlowConsumer) (reads : consumer ∈ pipeline.consumers) :
      pipeline.Joins (.consumer consumer.name) (.datastore consumer.datastore)

/-- A correct drawing has one node for each thing and one edge for each joint. -/
structure FlowPipeline.Correct (pipeline : FlowPipeline) (drawn : FlowLayout) : Prop where
  apart : drawn.nodes.Pairwise fun first second => first.box.Apart second.box
  inside : ∀ node ∈ drawn.nodes, node.box.Inside drawn.width drawn.height
  nodeKeys : (drawn.nodes.map Node.key).Nodup
  edgeKeys : (drawn.edges.map Edge.key).Nodup
  shown : ∀ subject, subject ∈ drawn.nodes.map Node.subject ↔ pipeline.Shows subject
  joined : ∀ ends, ends ∈ drawn.edges.map (fun edge => (edge.fromKey, edge.toKey)) ↔
    ∃ first second, pipeline.Joins first second ∧ ends = (first.key, second.key)
  once : (drawn.edges.map fun edge => (edge.fromKey, edge.toKey)).Nodup
  attached : ∀ joint ∈ drawn.edges, ∃ first ∈ drawn.nodes, ∃ second ∈ drawn.nodes,
    joint = edge first second

end Purpose

section Subjects

variable (pipeline : FlowPipeline)

/-- There is a queue for each consumer and entity type. -/
theorem FlowPipeline.mem_queueNames_iff (names : String × String) :
    names ∈ pipeline.queueNames ↔ names.2 ∈ pipeline.entityTypes ∧
      names.1 ∈ pipeline.consumers.map FlowConsumer.name := by
  unfold queueNames
  rw [List.mem_flatMap]
  constructor
  · rintro ⟨entity, present, member⟩
    obtain ⟨consumer, reads, rfl⟩ := List.mem_map.mp member
    exact ⟨present, List.mem_map_of_mem reads⟩
  · rintro ⟨present, member⟩
    obtain ⟨consumer, reads, same⟩ := List.mem_map.mp member
    exact ⟨names.2, present, List.mem_map.mpr ⟨consumer, reads, by rw [same]⟩⟩

/-- The stores are those that the consumers write to. -/
theorem FlowPipeline.mem_stores_iff (name : String) :
    name ∈ pipeline.stores ↔ ∃ consumer ∈ pipeline.consumers, consumer.datastore = name := by
  rw [stores, List.mem_eraseDups, List.mem_map]

/-- The subjects of a pipeline are those that it shows. -/
theorem FlowPipeline.mem_subjects_iff (subject : Subject) :
    subject ∈ pipeline.subjects ↔ pipeline.Shows subject := by
  unfold subjects
  simp only [List.mem_append, List.mem_map, List.mem_singleton, queueSubject]
  constructor
  · rintro ((((⟨names, member, rfl⟩ | ⟨entity, present, rfl⟩) | rfl) | ⟨consumer, reads, rfl⟩) |
      ⟨name, member, rfl⟩)
    · obtain ⟨present, member⟩ := (pipeline.mem_queueNames_iff names).mp member
      obtain ⟨consumer, reads, same⟩ := List.mem_map.mp member
      rw [← same]
      exact .queue consumer reads names.2 present
    · exact .exchange entity present
    · exact .producer
    · exact .consumer consumer reads
    · obtain ⟨consumer, reads, rfl⟩ := (pipeline.mem_stores_iff name).mp member
      exact .datastore consumer reads
  · intro shows
    cases shows with
    | producer => exact .inl (.inl (.inr rfl))
    | exchange entity present => exact .inl (.inl (.inl (.inr ⟨entity, present, rfl⟩)))
    | queue consumer reads entity present =>
        have member := (pipeline.mem_queueNames_iff (consumer.name, entity)).mpr
          ⟨present, List.mem_map_of_mem reads⟩
        exact .inl (.inl (.inl (.inl ⟨_, member, rfl⟩)))
    | consumer consumer reads => exact .inl (.inr ⟨consumer, reads, rfl⟩)
    | datastore consumer reads =>
        exact .inr ⟨_, (pipeline.mem_stores_iff _).mpr ⟨consumer, reads, rfl⟩, rfl⟩

/-- A well named pipeline shows readable subjects. -/
theorem FlowPipeline.Shows.readable {pipeline : FlowPipeline} {subject : Subject}
    (shows : pipeline.Shows subject) (named : pipeline.WellNamed) : subject.Readable := by
  cases shows with
  | producer => trivial
  | exchange entity present => exact named.readableEntities entity present
  | queue consumer reads entity present =>
      exact ⟨named.readableConsumers consumer reads, named.readableEntities entity present⟩
  | consumer consumer reads => exact named.readableConsumers consumer reads
  | datastore consumer reads => trivial

/-- A well named pipeline has each queue once. -/
theorem FlowPipeline.queueNames_nodup (named : pipeline.WellNamed) :
    pipeline.queueNames.Nodup := by
  unfold queueNames
  rw [List.nodup_flatMap]
  constructor
  · intro entity present
    have names := named.distinctConsumers.map fun _ _ (same : (_, entity) = (_, entity)) =>
      congrArg Prod.fst same
    rw [List.map_map] at names
    exact names
  · refine named.distinctEntities.imp ?_
    intro first second different names one two
    obtain ⟨_, _, rfl⟩ := List.mem_map.mp one
    obtain ⟨_, _, same⟩ := List.mem_map.mp two
    exact different (congrArg Prod.snd same).symm

/-- A well named pipeline has each subject once. -/
theorem FlowPipeline.subjects_nodup (named : pipeline.WellNamed) : pipeline.subjects.Nodup := by
  have queues : (pipeline.queueNames.map queueSubject).Nodup := by
    refine (pipeline.queueNames_nodup named).map ?_
    rintro ⟨_, _⟩ ⟨_, _⟩ ⟨⟩
    rfl
  have exchanges := named.distinctEntities.map fun _ _ => Subject.exchange.inj
  have consumers := named.distinctConsumers.map fun _ _ => Subject.consumer.inj
  have stores : (pipeline.stores.map Subject.datastore).Nodup :=
    (nodup_eraseDups _).map fun _ _ => Subject.datastore.inj
  rw [List.map_map] at consumers
  refine (((queues.append exchanges ?_).append (List.nodup_singleton _) ?_).append consumers
    ?_).append stores ?_
  all_goals
    rw [List.disjoint_left]
    intro subject first second
    simp only [List.mem_append, List.mem_map, List.mem_singleton, queueSubject] at first second
    grind

end Subjects

end OperationsConsole.Browser.TopologyFlow
