/-
This file embeds `TopologyFlow.layout` in `dashboard.js`, which draws the flow of one pipeline.
A running offset places the queues and the exchanges, and the other columns are spread evenly.
-/

import Mathlib.Data.Rat.Defs
import Mathlib.Algebra.Order.Ring.Rat
import Mathlib.Tactic.NormNum
import OperationsConsole.Library.Boxes
import OperationsConsole.Library.Listing

namespace OperationsConsole.Browser.TopologyFlow

open Library

/-- The drawing needs the name of a consumer and the datastore that it writes to. -/
structure FlowConsumer where
  name : String
  datastore : String
  deriving DecidableEq

structure FlowPipeline where
  entityTypes : List String
  consumers : List FlowConsumer
  deriving DecidableEq

inductive Kind where
  | producer
  | exchange
  | queue
  | consumer
  | datastore
  deriving DecidableEq

section Columns

def width : ℚ := 950

/-- The headings of the columns have room above the boxes. -/
def top : ℚ := 26

def queueHeight : ℚ := 58

def queueGap : ℚ := 6

def groupGap : ℚ := 14

/-- This is the left edge of a column. -/
def Kind.x : Kind → ℚ
  | .producer => 0
  | .exchange => 160
  | .queue => 350
  | .consumer => 660
  | .datastore => 840

def Kind.w : Kind → ℚ
  | .producer => 130
  | .exchange => 150
  | .queue => 250
  | .consumer => 150
  | .datastore => 110

def Kind.title : Kind → String
  | .producer => "PRODUCER"
  | .exchange => "EXCHANGE (FANOUT)"
  | .queue => "QUEUE"
  | .consumer => "CONSUMER"
  | .datastore => "DATASTORE"

structure Column where
  kind : Kind
  x : ℚ
  title : String

def columns : List Column :=
  [Kind.producer, .exchange, .queue, .consumer, .datastore].map fun kind =>
    ⟨kind, kind.x, kind.title⟩

/-- The kind of a box determines its column. -/
def box (kind : Kind) (y h : ℚ) : Box ℚ := ⟨kind.x, y, kind.w, h⟩

end Columns

section Nodes

/-- A node shows one thing of the pipeline, and carries its names. -/
inductive Subject where
  | producer
  | exchange (entity : String)
  | queue (consumer entity : String)
  | consumer (name : String)
  | datastore (name : String)
  deriving DecidableEq

def Subject.kind : Subject → Kind
  | .producer => .producer
  | .exchange _ => .exchange
  | .queue _ _ => .queue
  | .consumer _ => .consumer
  | .datastore _ => .datastore

def Subject.key : Subject → String
  | .producer => "producer"
  | .exchange entity => "exchange:" ++ entity
  | .queue name entity => "queue:" ++ name ++ ":" ++ entity
  | .consumer name => "consumer:" ++ name
  | .datastore name => "datastore:" ++ name

/-- A node without an entity has an undefined one. -/
def Subject.entity : Subject → Option String
  | .exchange entity => some entity
  | .queue _ entity => some entity
  | _ => none

def Subject.consumerName : Subject → Option String
  | .queue name _ => some name
  | .consumer name => some name
  | _ => none

structure Node where
  subject : Subject
  box : Box ℚ
  deriving DecidableEq

def Node.key (node : Node) : String := node.subject.key

/-- The box of a node stands in the column of its kind. -/
def node (subject : Subject) (y h : ℚ) : Node := ⟨subject, TopologyFlow.box subject.kind y h⟩

end Nodes

section Edges

/-- A curve leaves its start and reaches its finish horizontally. -/
structure Curve where
  start : ℚ × ℚ
  leaving : ℚ × ℚ
  arriving : ℚ × ℚ
  finish : ℚ × ℚ

def curve (x1 y1 x2 y2 : ℚ) : Curve :=
  let mx := (x1 + x2) / 2
  ⟨(x1, y1), (mx, y1), (mx, y2), (x2, y2)⟩

structure Edge where
  key : String
  fromKey : String
  toKey : String
  d : Curve

def edge (first second : Node) : Edge where
  key := first.key ++ ">" ++ second.key
  fromKey := first.key
  toKey := second.key
  d := curve first.box.right first.box.middle second.box.x second.box.middle

/-- An edge between an undefined node and another raises a TypeError. -/
def edgeBetween (ends : Option Node × Option Node) : Option Edge :=
  match ends with
  | (some first, some second) => some (edge first second)
  | _ => none

end Edges

section Offsets

/-- The drawing is at an offset, and has listed its nodes in the order of their creation. -/
structure Drawing where
  y : ℚ
  queueNodes : List Node
  exchanges : List Node
  nodes : List Node

def Drawing.start : Drawing := ⟨top, [], [], []⟩

def Drawing.addQueue (entity : String) (drawing : Drawing) (consumer : FlowConsumer) : Drawing :=
  let queue := node (.queue consumer.name entity) drawing.y queueHeight
  { drawing with
    y := drawing.y + (queueHeight + queueGap)
    queueNodes := drawing.queueNodes ++ [queue]
    nodes := drawing.nodes ++ [queue] }

/-- The exchange of an entity stands at the middle of its queues. -/
def Drawing.addEntity (consumers : List FlowConsumer) (drawing : Drawing) (entity : String) :
    Drawing :=
  let filled := consumers.foldl (addQueue entity) drawing
  let mid := (drawing.y + filled.y - queueGap) / 2
  let exchange := node (.exchange entity) (mid - 22) 44
  { filled with
    y := filled.y + groupGap
    exchanges := filled.exchanges ++ [exchange]
    nodes := filled.nodes ++ [exchange] }

def FlowPipeline.drawing (pipeline : FlowPipeline) : Drawing :=
  pipeline.entityTypes.foldl (Drawing.addEntity pipeline.consumers) Drawing.start

end Offsets

section Layout

structure FlowLayout where
  width : ℚ
  height : ℚ
  columns : List Column
  nodes : List Node
  edges : List Edge

def FlowPipeline.height (pipeline : FlowPipeline) : ℚ :=
  max (pipeline.drawing.y - groupGap) (top + 80)

def FlowPipeline.spread (pipeline : FlowPipeline) (count i : ℕ) : ℚ :=
  top + (pipeline.height - top) / count * (i + 1 / 2)

def FlowPipeline.producerNode (pipeline : FlowPipeline) : Node :=
  node .producer (pipeline.spread 1 0 - 40) 80

def FlowPipeline.consumerNodes (pipeline : FlowPipeline) : List Node :=
  pipeline.consumers.mapIdx fun i consumer =>
    node (.consumer consumer.name) (pipeline.spread pipeline.consumers.length i - 26) 52

/-- Each datastore is listed once, where a consumer first writes to it. -/
def FlowPipeline.stores (pipeline : FlowPipeline) : List String :=
  (pipeline.consumers.map FlowConsumer.datastore).eraseDups

def FlowPipeline.storeNodes (pipeline : FlowPipeline) : List Node :=
  pipeline.stores.mapIdx fun i datastore =>
    node (.datastore datastore) (pipeline.spread pipeline.stores.length i - 22) 44

/-- These are the nodes of the layout in the order of their creation. -/
def FlowPipeline.nodes (pipeline : FlowPipeline) : List Node :=
  pipeline.drawing.nodes ++ [pipeline.producerNode] ++ pipeline.consumerNodes ++
    pipeline.storeNodes

/-- An index of -1 finds an undefined node, as an index behind the end does. -/
def FlowPipeline.exchangeOf (pipeline : FlowPipeline) (queue : Node) : Option Node :=
  pipeline.drawing.exchanges[pipeline.entityTypes.findIdx fun entity =>
    queue.subject.entity = some entity]?

def FlowPipeline.consumerOf (pipeline : FlowPipeline) (queue : Node) : Option Node :=
  pipeline.consumerNodes[pipeline.consumers.findIdx fun consumer =>
    queue.subject.consumerName = some consumer.name]?

/-- These are the ends of the edges in the order of their creation. -/
def FlowPipeline.ends (pipeline : FlowPipeline) : List (Option Node × Option Node) :=
  (pipeline.drawing.exchanges.map fun exchange => (some pipeline.producerNode, some exchange)) ++
  (pipeline.drawing.queueNodes.flatMap fun queue =>
    [(pipeline.exchangeOf queue, some queue), (some queue, pipeline.consumerOf queue)]) ++
  pipeline.consumers.mapIdx fun i consumer =>
    (pipeline.consumerNodes[i]?, pipeline.storeNodes[pipeline.stores.idxOf consumer.datastore]?)

/-- The layout is drawn unless an edge has an undefined end. -/
def layout (pipeline : FlowPipeline) : Option FlowLayout :=
  (pipeline.ends.mapM edgeBetween).map fun edges =>
    { width := width
      height := pipeline.height
      columns := columns
      nodes := pipeline.nodes
      edges := edges }

end Layout

end OperationsConsole.Browser.TopologyFlow
