/-
This file embeds the three definitions of the dead-letter queues and the way of a purge.
The page, the topology, and the catalog contract name them, and the proxy checks each name.
-/

import OperationsConsole.Browser.Layout
import OperationsConsole.Collector.Collection

namespace OperationsConsole.Browser

open Library

/-- The environment may override the two exchange prefixes. -/
structure Environment where
  discogs : Option String
  musicbrainz : Option String

/-- A source of the catalog is one of the two producers. -/
inductive Source where
  | discogs
  | musicbrainz
  deriving DecidableEq

/-- These are the compiled-in prefixes of both languages. -/
def defaultPrefix : Source → String
  | .discogs => "groovemap-discogs"
  | .musicbrainz => "groovemap-musicbrainz"

/-- This is `exchange_prefix`, which reads the environment. -/
def exchangePrefix (environment : Environment) : Source → String
  | .discogs => environment.discogs.getD (defaultPrefix .discogs)
  | .musicbrainz => environment.musicbrainz.getD (defaultPrefix .musicbrainz)

section Contract

def entityTypes : Source → List String
  | .discogs => ["artists", "labels", "masters", "releases"]
  | .musicbrainz => ["artists", "labels", "release-groups", "releases"]

/-- The registered consumers belong to one source each. -/
def consumerSources : Dict String Source where
  items := [("brainzgraphinator", .musicbrainz), ("brainztableinator", .musicbrainz),
    ("graphinator", .discogs), ("tableinator", .discogs)]
  nodup := by
    show ["brainzgraphinator", "brainztableinator", "graphinator", "tableinator"].Nodup
    decide

def sourceText : Source → String
  | .discogs => "discogs"
  | .musicbrainz => "musicbrainz"

/-- The contract refuses an unknown consumer and an entity type that its source does not have. -/
def queueName (environment : Environment) (consumer entity : String) : Except String String :=
  match consumerSources.get? consumer with
  | none => .error ("Unknown catalog consumer: " ++ consumer)
  | some source =>
      if entity ∈ entityTypes source then
        .ok (exchangePrefix environment source ++ "-" ++ consumer ++ "-" ++ entity)
      else .error ("Unknown " ++ sourceText source ++ " entity: " ++ entity)

def deadLetterQueueName (environment : Environment) (consumer entity : String) :
    Except String String :=
  (queueName environment consumer entity).map fun name => name ++ ".dlq"

/-- These are the dead-letter queues of all registered consumers and their entity types. -/
def contractNames (environment : Environment) : List String :=
  consumerSources.items.flatMap fun item =>
    (entityTypes item.2).filterMap fun entity =>
      (deadLetterQueueName environment item.1 entity).toOption

end Contract

section Topology

/-- The layout reads a configured pipeline without its datastores. -/
def layoutConfig (config : OperationsConsole.PipelineConfig) : PipelineConfig where
  label := some config.label
  producer := config.producer
  consumers := config.consumers.map ConsumerConfig.name
  queuePrefix := config.queuePrefix
  entityTypes := config.entityTypes

/-- The payload of a pipeline lists its dead-letter queues. -/
def LayoutPipeline.deadLetterQueues (pipeline : LayoutPipeline) : List String :=
  pipeline.consumers.flatMap fun consumer => consumer.queues.map TopologyQueue.deadLetterQueue

def servedLayout (builtins : Builtins) (environment : Environment) : Layout :=
  buildTopology builtins ((pipelineConfigs (exchangePrefix environment .discogs)
    (exchangePrefix environment .musicbrainz)).mapValues fun _ config => layoutConfig config)

def topologyNames (builtins : Builtins) (environment : Environment) : List String :=
  (servedLayout builtins environment).pipelines.flatMap LayoutPipeline.deadLetterQueues

end Topology

section Page

/-- An item keeps the parts of its queue, because the name cannot be parsed back. -/
structure DlqItem where
  queue : String
  service : String
  type : String
  deriving DecidableEq

structure ConsumerGroup where
  source : Source
  consumer : String
  types : List String

def dlqConsumerGroups : List ConsumerGroup :=
  [⟨.discogs, "graphinator", ["artists", "labels", "masters", "releases"]⟩,
    ⟨.discogs, "tableinator", ["artists", "labels", "masters", "releases"]⟩,
    ⟨.musicbrainz, "brainzgraphinator", ["artists", "labels", "release-groups", "releases"]⟩,
    ⟨.musicbrainz, "brainztableinator", ["artists", "labels", "release-groups", "releases"]⟩]

def buildDlqItems (prefixes : Source → String) : List DlqItem :=
  dlqConsumerGroups.flatMap fun group => group.types.map fun type =>
    ⟨prefixes group.source ++ "-" ++ group.consumer ++ "-" ++ type ++ ".dlq", group.consumer,
      type⟩

/-- The request for the prefixes fails, or its body carries them. An absent field is no text. -/
inductive PrefixAnswer where
  | failed
  | body (prefixes : Source → Option String)

/-- This is `/api/queue-prefixes`. -/
def getQueuePrefixes (environment : Environment) : PrefixAnswer :=
  .body fun source => some (exchangePrefix environment source)

/-- An absent or empty prefix leaves the items as they are, like any failure. -/
def loadQueuePrefixes (items : List DlqItem) : PrefixAnswer → List DlqItem
  | .failed => items
  | .body prefixes =>
      if (prefixes .discogs).getD "" = "" ∨ (prefixes .musicbrainz).getD "" = "" then items
      else buildDlqItems fun source => (prefixes source).getD ""

/-- The page starts with the defaults and reads the prefixes at each sign-in. -/
def dlqItemsAfter (answers : List PrefixAnswer) : List DlqItem :=
  answers.foldl loadQueuePrefixes (buildDlqItems defaultPrefix)

def dlqNames (items : List DlqItem) : List String := items.map DlqItem.queue

end Page

section Purge

/-- The proxy allows ASCII letters, digits, dots, underscores, and hyphens. -/
def isSafePathChar (char : Char) : Bool :=
  char.isAlphanum || char = '.' || char = '_' || char = '-'

/-- The end of the pattern also matches before one last newline. -/
def matchesSafePathSegment (value : List Char) : Bool :=
  let line := if value.getLast? = some '\n' then value.dropLast else value
  !line.isEmpty && line.all isSafePathChar

def validatePathSegment (value : String) : Bool :=
  if value = "." ∨ value = ".." then false else matchesSafePathSegment value.toList

/-- The proxy answers by itself, or it sends the request to a path of catalog-api. -/
inductive Proxied where
  | answered (status : Nat) (body : String)
  | posted (path : String)
  deriving DecidableEq

def adminDlqPurgePath (queue : String) : String := "/api/admin/dlq/purge/" ++ queue

def proxyDlqPurge (queue : String) : Proxied :=
  if validatePathSegment queue then .posted (adminDlqPurgePath queue)
  else .answered 400 "\x7b\"detail\":\"Invalid queue name\"\x7d"

/-- The page writes the name of the queue into the path as it is. -/
def purgeUrl (queue : String) : String := "/admin/api/dlq/purge/" ++ queue

/-- The browser and the web framework decide which queue the purge route receives for a path. -/
def purgeDlq (route : String → Option String) (queue : String) : Option Proxied :=
  (route (purgeUrl queue)).map proxyDlqPurge

/-- A path segment of unreserved characters reaches the route as it is, unless it is dots. -/
def KeepsSafeSegments (route : String → Option String) : Prop :=
  ∀ segment : String, segment ≠ "" → segment ≠ "." → segment ≠ ".." →
    (∀ char ∈ segment.toList, isSafePathChar char) → route (purgeUrl segment) = some segment

end Purge

section Names

/-- A dead-letter queue belongs to a consumer of a source and to an entity type of the source. -/
structure QueueParts where
  source : Source
  consumer : String
  entity : String
  deriving DecidableEq

def QueueParts.deadLetterQueue (prefixes : Source → String) (parts : QueueParts) : String :=
  prefixes parts.source ++ "-" ++ parts.consumer ++ "-" ++ parts.entity ++ ".dlq"

/-- These are the queues in the order of the page. -/
def pageQueues : List QueueParts :=
  dlqConsumerGroups.flatMap fun group => group.types.map fun type =>
    ⟨group.source, group.consumer, type⟩

/-- These are the queues in the order of the contract. -/
def contractQueues : List QueueParts :=
  consumerSources.items.flatMap fun item => (entityTypes item.2).map fun entity =>
    ⟨item.2, item.1, entity⟩

/-- The identifier of a configured pipeline is the text of its source. -/
def pipelineSource (id : String) : Source :=
  if id = sourceText .discogs then .discogs else .musicbrainz

/-- These are the queues in the order of the configuration. -/
def configuredQueues : List QueueParts :=
  (pipelineConfigs "" "").items.flatMap fun item => item.2.consumers.flatMap fun consumer =>
    item.2.entityTypes.map fun entity => ⟨pipelineSource item.1, consumer.name, entity⟩

theorem dlqNames_buildDlqItems (prefixes : Source → String) :
    dlqNames (buildDlqItems prefixes) = pageQueues.map (QueueParts.deadLetterQueue prefixes) := rfl

theorem contractNames_eq (environment : Environment) :
    contractNames environment =
      contractQueues.map (QueueParts.deadLetterQueue (exchangePrefix environment)) := rfl

theorem topologyNames_eq (builtins : Builtins) (environment : Environment) :
    topologyNames builtins environment =
      configuredQueues.map (QueueParts.deadLetterQueue (exchangePrefix environment)) := rfl

/-- The three languages list the same queues in three orders. -/
theorem contractQueues_perm : contractQueues.Perm pageQueues := by decide

/-- The layout and the page list the same queues. -/
theorem configuredQueues_perm : configuredQueues.Perm pageQueues := by decide

/-- The page names the queues of the contract from the served prefixes. -/
theorem mem_contractNames_iff (environment : Environment) (name : String) :
    name ∈ contractNames environment ↔
      name ∈ dlqNames (buildDlqItems (exchangePrefix environment)) := by
  rw [contractNames_eq, dlqNames_buildDlqItems]
  exact (contractQueues_perm.map _).mem_iff

/-- The page names the queues of the topology from the served prefixes. -/
theorem mem_topologyNames_iff (builtins : Builtins) (environment : Environment) (name : String) :
    name ∈ topologyNames builtins environment ↔
      name ∈ dlqNames (buildDlqItems (exchangePrefix environment)) := by
  rw [topologyNames_eq, dlqNames_buildDlqItems]
  exact (configuredQueues_perm.map _).mem_iff

end Names

section Load

variable (environment : Environment)

/-- The served prefixes replace the items when neither is empty. -/
theorem loadQueuePrefixes_served (items : List DlqItem)
    (named : ∀ source, exchangePrefix environment source ≠ "") :
    loadQueuePrefixes items (getQueuePrefixes environment) =
      buildDlqItems (exchangePrefix environment) := by
  have discogs := named .discogs
  have musicbrainz := named .musicbrainz
  simp [loadQueuePrefixes, getQueuePrefixes, discogs, musicbrainz]

/-- The served prefixes leave the items as they are when one is empty. -/
theorem loadQueuePrefixes_empty (items : List DlqItem) (source : Source)
    (empty : exchangePrefix environment source = "") :
    loadQueuePrefixes items (getQueuePrefixes environment) = items := by
  cases source with
  | discogs => simp [loadQueuePrefixes, getQueuePrefixes, empty]
  | musicbrainz => simp [loadQueuePrefixes, getQueuePrefixes, empty]

/-- A console answers every request with its own prefixes, or the request fails. -/
def AnswersOf (answers : List PrefixAnswer) : Prop :=
  ∀ answer ∈ answers, answer = .failed ∨ answer = getQueuePrefixes environment

/-- Once the items come from the served prefixes, every later answer keeps them. -/
theorem foldl_loadQueuePrefixes_served (answers : List PrefixAnswer)
    (own : AnswersOf environment answers)
    (named : ∀ source, exchangePrefix environment source ≠ "") :
    answers.foldl loadQueuePrefixes (buildDlqItems (exchangePrefix environment)) =
      buildDlqItems (exchangePrefix environment) := by
  induction answers with
  | nil => rfl
  | cons answer rest ih =>
      have later : AnswersOf environment rest := fun other member =>
        own other (List.mem_cons_of_mem answer member)
      rw [List.foldl_cons]
      rcases own answer List.mem_cons_self with failed | served
      · rw [failed]
        exact ih later
      · rw [served, loadQueuePrefixes_served environment _ named]
        exact ih later

/-- The page uses the served prefixes from the first answer that carries them. -/
theorem dlqItemsAfter_served (answers : List PrefixAnswer) (own : AnswersOf environment answers)
    (named : ∀ source, exchangePrefix environment source ≠ "")
    (served : getQueuePrefixes environment ∈ answers) :
    dlqItemsAfter answers = buildDlqItems (exchangePrefix environment) := by
  obtain ⟨before, after, split⟩ := List.append_of_mem served
  have later : AnswersOf environment after := fun other member =>
    own other (by simp [split, member])
  rw [dlqItemsAfter, split, List.foldl_append, List.foldl_cons,
    loadQueuePrefixes_served environment _ named]
  exact foldl_loadQueuePrefixes_served environment after later named

end Load

section Delivery

/-- A segment that does not end in a newline matches exactly with safe characters alone. -/
theorem matchesSafePathSegment_iff (value : List Char) (present : value ≠ [])
    (line : value.getLast? ≠ some '\n') :
    matchesSafePathSegment value = true ↔ ∀ char ∈ value, isSafePathChar char := by
  simp [matchesSafePathSegment, line, present]

/-- The parts of a name after its prefix. -/
def QueueParts.tail (parts : QueueParts) : String :=
  "-" ++ parts.consumer ++ "-" ++ parts.entity ++ ".dlq"

/-- A dead-letter queue is named by its prefix and its tail. -/
theorem QueueParts.deadLetterQueue_eq (prefixes : Source → String) (parts : QueueParts) :
    parts.deadLetterQueue prefixes = prefixes parts.source ++ parts.tail := by
  simp only [QueueParts.deadLetterQueue, QueueParts.tail, String.append_assoc]

theorem QueueParts.getLast?_deadLetterQueue (prefixes : Source → String) (parts : QueueParts) :
    (parts.deadLetterQueue prefixes).toList.getLast? = some 'q' := by
  rw [QueueParts.deadLetterQueue, String.toList_append,
    List.getLast?_append_of_ne_nil _ (by decide)]
  decide

/-- The registered consumers and the entity types have safe names. -/
theorem QueueParts.tail_safe (parts : QueueParts) (listed : parts ∈ pageQueues) :
    ∀ char ∈ parts.tail.toList, isSafePathChar char := by
  have names : (pageQueues.all fun parts => parts.consumer.toList.all isSafePathChar &&
      parts.entity.toList.all isSafePathChar) = true := by
    decide
  have own := List.all_eq_true.mp names parts listed
  rw [Bool.and_eq_true] at own
  rw [← List.all_eq_true, QueueParts.tail, String.toList_append, String.toList_append,
    String.toList_append, String.toList_append, List.all_append, List.all_append, List.all_append,
    List.all_append, own.1, own.2]
  decide

/-- The characters of a listed name are safe exactly when those of its prefix are. -/
theorem QueueParts.safe_iff (prefixes : Source → String) (parts : QueueParts)
    (listed : parts ∈ pageQueues) :
    (∀ char ∈ (parts.deadLetterQueue prefixes).toList, isSafePathChar char) ↔
      ∀ char ∈ (prefixes parts.source).toList, isSafePathChar char := by
  rw [QueueParts.deadLetterQueue_eq, String.toList_append]
  have tail := QueueParts.tail_safe parts listed
  constructor
  · intro safe char member
    exact safe char (List.mem_append_left _ member)
  · intro safe char member
    rcases List.mem_append.mp member with inside | inside
    · exact safe char inside
    · exact tail char inside

/-- The proxy accepts a name that ends like a dead-letter queue exactly with safe characters. -/
theorem validatePathSegment_iff (value : String) (ends : value.toList.getLast? = some 'q') :
    validatePathSegment value = true ↔ ∀ char ∈ value.toList, isSafePathChar char := by
  have present : value.toList ≠ [] := by
    intro empty
    rw [empty] at ends
    simp at ends
  have one : value ≠ "." := by
    rintro rfl
    revert ends
    decide
  have two : value ≠ ".." := by
    rintro rfl
    revert ends
    decide
  rw [validatePathSegment, if_neg (by simp [one, two])]
  exact matchesSafePathSegment_iff value.toList present (by simp [ends])

/-- The paths of two queues differ. -/
theorem adminDlqPurgePath_inj (first second : String) :
    adminDlqPurgePath first = adminDlqPurgePath second ↔ first = second := by
  unfold adminDlqPurgePath
  exact String.append_right_inj _

/-- The proxy posts to the purge path of a queue exactly when it received this queue. -/
theorem proxyDlqPurge_posted_iff (received queue : String) :
    proxyDlqPurge received = .posted (adminDlqPurgePath queue) ↔
      received = queue ∧ validatePathSegment queue = true := by
  by_cases valid : validatePathSegment received = true
  · rw [proxyDlqPurge, if_pos valid, Proxied.posted.injEq, adminDlqPurgePath_inj]
    constructor
    · rintro rfl
      exact ⟨rfl, valid⟩
    · rintro ⟨same, _⟩
      exact same
  · rw [proxyDlqPurge, if_neg valid]
    constructor
    · intro posted
      cases posted
    · rintro ⟨rfl, accepted⟩
      exact absurd accepted valid

/-- A purge reaches exactly its queue when the prefix of the queue has safe characters alone. -/
theorem purgeDlq_iff (route : String → Option String) (keeps : KeepsSafeSegments route)
    (prefixes : Source → String) (parts : QueueParts) (listed : parts ∈ pageQueues) :
    purgeDlq route (parts.deadLetterQueue prefixes) =
        some (.posted (adminDlqPurgePath (parts.deadLetterQueue prefixes))) ↔
      ∀ char ∈ (prefixes parts.source).toList, isSafePathChar char := by
  have ends := QueueParts.getLast?_deadLetterQueue prefixes parts
  rw [← QueueParts.safe_iff prefixes parts listed, ← validatePathSegment_iff _ ends]
  constructor
  · intro reached
    rw [purgeDlq, Option.map_eq_some_iff] at reached
    obtain ⟨received, _, posted⟩ := reached
    exact ((proxyDlqPurge_posted_iff received _).mp posted).2
  · intro valid
    have safe := (validatePathSegment_iff _ ends).mp valid
    have present : parts.deadLetterQueue prefixes ≠ "" := by
      intro empty
      rw [empty] at ends
      simp at ends
    have dots :
        parts.deadLetterQueue prefixes ≠ "." ∧ parts.deadLetterQueue prefixes ≠ ".." := by
      rw [validatePathSegment] at valid
      split at valid
      · exact absurd valid Bool.false_ne_true
      · rename_i other
        exact not_or.mp other
    rw [purgeDlq, keeps _ present dots.1 dots.2 safe, Option.map_some, Option.some.injEq]
    exact (proxyDlqPurge_posted_iff _ _).mpr ⟨rfl, valid⟩

end Delivery

/-- The three definitions agree, and each listed queue can be purged. -/
structure PurgesEveryQueue (builtins : Builtins) (route : String → Option String)
    (environment : Environment) : Prop where
  contract : ∀ name, name ∈ contractNames environment ↔
    name ∈ dlqNames (buildDlqItems (exchangePrefix environment))
  topology : ∀ name, name ∈ topologyNames builtins environment ↔
    name ∈ dlqNames (buildDlqItems (exchangePrefix environment))
  loaded : ∀ answers, AnswersOf environment answers →
    getQueuePrefixes environment ∈ answers →
      ∀ name, name ∈ dlqNames (dlqItemsAfter answers) ↔ name ∈ contractNames environment
  purged : ∀ name ∈ dlqNames (buildDlqItems (exchangePrefix environment)),
    purgeDlq route name = some (.posted (adminDlqPurgePath name))

/-- The three definitions agree, the page uses them unless a prefix is empty, and a purge reaches
exactly the queues whose prefix the proxy allows. -/
structure PurgesAllowedQueues (builtins : Builtins) (route : String → Option String)
    (environment : Environment) : Prop where
  contract : ∀ name, name ∈ contractNames environment ↔
    name ∈ dlqNames (buildDlqItems (exchangePrefix environment))
  topology : ∀ name, name ∈ topologyNames builtins environment ↔
    name ∈ dlqNames (buildDlqItems (exchangePrefix environment))
  loaded : (∀ source, exchangePrefix environment source ≠ "") →
    ∀ answers, AnswersOf environment answers → getQueuePrefixes environment ∈ answers →
      ∀ name, name ∈ dlqNames (dlqItemsAfter answers) ↔ name ∈ contractNames environment
  purged : ∀ parts ∈ pageQueues,
    let name := parts.deadLetterQueue (exchangePrefix environment)
    purgeDlq route name = some (.posted (adminDlqPurgePath name)) ↔
      ∀ char ∈ (exchangePrefix environment parts.source).toList, isSafePathChar char

/-- Every pair of prefixes has the same names in both languages, and allowed names are purged. -/
theorem purgesAllowedQueues (builtins : Builtins) (route : String → Option String)
    (keeps : KeepsSafeSegments route) (environment : Environment) :
    PurgesAllowedQueues builtins route environment where
  contract := mem_contractNames_iff environment
  topology := mem_topologyNames_iff builtins environment
  loaded named answers own served name := by
    rw [dlqItemsAfter_served environment answers own named served]
    exact (mem_contractNames_iff environment name).symm
  purged parts listed :=
    purgeDlq_iff route keeps (exchangePrefix environment) parts listed

/-- This route receives what follows the purge path. -/
def plainRoute (path : String) : Option String :=
  if (purgeUrl "").toList <+: path.toList then
    some (String.ofList (path.toList.drop (purgeUrl "").toList.length))
  else none

theorem purgeUrl_toList (segment : String) :
    (purgeUrl segment).toList = (purgeUrl "").toList ++ segment.toList := by
  unfold purgeUrl
  simp only [String.toList_append]
  simp

theorem plainRoute_keeps : KeepsSafeSegments plainRoute := by
  intro segment _ _ _ _
  rw [plainRoute, purgeUrl_toList segment, if_pos (List.prefix_append _ _), List.drop_left,
    String.ofList_toList]

def plainBuiltins : Builtins := ⟨id, id, id, fun _ _ => ""⟩

/-- A prefix with dots and digits is allowed. -/
theorem purgesAllowedQueues_override :
    PurgesAllowedQueues plainBuiltins plainRoute ⟨some "acme.discogs-v2", none⟩ :=
  purgesAllowedQueues plainBuiltins plainRoute plainRoute_keeps ⟨some "acme.discogs-v2", none⟩

/-- The proxy refuses every queue of a prefix with a plus sign, and the page does not take over an
empty prefix. -/
theorem purgesEveryQueue_fails :
    ¬ PurgesEveryQueue plainBuiltins plainRoute ⟨some "groovemap+discogs", none⟩ ∧
      ¬ PurgesEveryQueue plainBuiltins plainRoute ⟨some "", none⟩ := by
  constructor
  · intro every
    have reached := every.purged "groovemap+discogs-graphinator-artists.dlq" (by decide)
    have refused : purgeDlq plainRoute "groovemap+discogs-graphinator-artists.dlq" =
        some (.answered 400 "\x7b\"detail\":\"Invalid queue name\"\x7d") := by
      decide +kernel
    rw [refused] at reached
    simp at reached
  · intro every
    have own : AnswersOf ⟨some "", none⟩ [getQueuePrefixes ⟨some "", none⟩] := by
      simp [AnswersOf]
    have loaded := every.loaded _ own List.mem_cons_self "-graphinator-artists.dlq"
    have kept : dlqItemsAfter [getQueuePrefixes ⟨some "", none⟩] = buildDlqItems defaultPrefix :=
      loadQueuePrefixes_empty ⟨some "", none⟩ _ .discogs rfl
    rw [kept] at loaded
    exact absurd (loaded.mpr (by decide)) (by decide)

end OperationsConsole.Browser
