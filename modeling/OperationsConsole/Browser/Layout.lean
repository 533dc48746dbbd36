/-
This file embeds the layout that `build_topology` in `topology.py` serves to the Overview.
A cell of the matrix belongs to a pipeline, to one of its consumers, and to an entity type.
-/

import OperationsConsole.Browser.LiveData

namespace OperationsConsole.Browser

open Library

/-- The two languages supply these functions on texts and numbers. -/
structure Builtins where
  capitalize : String → String
  toUpperCase : String → String
  toLowerCase : String → String
  toFixed : ℚ → Nat → String

structure LayoutConsumer extends TopologyConsumer where
  label : String
  deriving DecidableEq

/-- The name of a consumer identifies it within its pipeline. -/
structure LayoutPipeline where
  id : String
  label : String
  entityTypes : List String
  producer : String
  consumers : List LayoutConsumer
  named : ∀ first ∈ consumers, ∀ second ∈ consumers, first.name = second.name → first = second
  deriving DecidableEq

/-- The identifier of a pipeline identifies it within the layout. -/
structure Layout where
  pipelines : List LayoutPipeline
  identified : ∀ first ∈ pipelines, ∀ second ∈ pipelines, first.id = second.id → first = second
  deriving DecidableEq

/-- The histories are kept for the queues of a pipeline without its labels. -/
def LayoutPipeline.queues (pipeline : LayoutPipeline) : TopologyPipeline :=
  ⟨pipeline.id, pipeline.consumers.map LayoutConsumer.toTopologyConsumer⟩

def Layout.topology (layout : Layout) : Topology := ⟨layout.pipelines.map LayoutPipeline.queues⟩

/-- The page finds a pipeline by its identifier. -/
def Layout.pipeline? (layout : Layout) (id : String) : Option LayoutPipeline :=
  layout.pipelines.find? fun pipeline => pipeline.id = id

/-- The layout and its topology find the same pipeline. -/
theorem Layout.find?_topology (layout : Layout) (id : String) :
    layout.topology.pipelines.find? (fun pipeline => pipeline.id = id) =
      (layout.pipeline? id).map LayoutPipeline.queues := by
  rw [Layout.topology, List.find?_map]
  rfl

/-- The label of an entity type capitalises its words and separates them by spaces. -/
def entityLabel (builtins : Builtins) (entity : String) : String :=
  " ".intercalate ((entity.splitOn "-").map fun word =>
    builtins.toUpperCase (word.take 1).toString ++ (word.drop 1).toString)

/-- A configured pipeline lists its consumers and its entity types. -/
structure PipelineConfig where
  label : Option String := none
  producer : String
  consumers : List String
  queuePrefix : String
  entityTypes : List String

/-- This is `_queue`. -/
def layoutQueue (queuePrefix consumer entity : String) : TopologyQueue :=
  let name := s!"{queuePrefix}-{consumer}-{entity}"
  ⟨name, entity, s!"{name}.dlq"⟩

def layoutConsumer (builtins : Builtins) (config : PipelineConfig) (name : String) :
    LayoutConsumer where
  name := name
  queues := config.entityTypes.map (layoutQueue config.queuePrefix name)
  label := builtins.capitalize name

/-- A consumer of the layout is determined by its name, even when the configuration repeats it. -/
theorem layoutConsumer_named (builtins : Builtins) (config : PipelineConfig)
    (first second : LayoutConsumer)
    (one : first ∈ config.consumers.map (layoutConsumer builtins config))
    (other : second ∈ config.consumers.map (layoutConsumer builtins config))
    (same : first.name = second.name) : first = second := by
  rw [List.mem_map] at one other
  obtain ⟨name, _, rfl⟩ := one
  obtain ⟨otherName, _, rfl⟩ := other
  change name = otherName at same
  rw [same]

def layoutPipeline (builtins : Builtins) (id : String) (config : PipelineConfig) :
    LayoutPipeline where
  id := id
  label := config.label.getD (builtins.capitalize id)
  entityTypes := config.entityTypes
  producer := config.producer
  consumers := config.consumers.map (layoutConsumer builtins config)
  named first one second other same :=
    layoutConsumer_named builtins config first second one other same

/-- The configuration is a dictionary, so every pipeline of the layout has its own identifier. -/
theorem layoutPipeline_identified (builtins : Builtins) (configs : Dict String PipelineConfig)
    (first second : LayoutPipeline)
    (one : first ∈ configs.items.map fun item => layoutPipeline builtins item.1 item.2)
    (other : second ∈ configs.items.map fun item => layoutPipeline builtins item.1 item.2)
    (same : first.id = second.id) : first = second := by
  rw [List.mem_map] at one other
  obtain ⟨item, member, rfl⟩ := one
  obtain ⟨otherItem, otherMember, rfl⟩ := other
  have equal := List.inj_on_of_nodup_map configs.nodup member otherMember same
  rw [equal]

/-- The topology describes every configured pipeline. -/
def buildTopology (builtins : Builtins) (configs : Dict String PipelineConfig) : Layout where
  pipelines := configs.items.map fun item => layoutPipeline builtins item.1 item.2
  identified first one second other same :=
    layoutPipeline_identified builtins configs first second one other same

end OperationsConsole.Browser
