/-
This file embeds how `dashboard/queue_metrics.py`, `dashboard/history.py` and
`dashboard/progress.py` ask for the queues of a prefix. The live view, the history and the progress
of a run agree on them.
-/

import OperationsConsole.Collector.Collection
import OperationsConsole.History.QueueHistory
import OperationsConsole.Library.Ascii
import OperationsConsole.Library.Patterns
import OperationsConsole.Library.Splitting

namespace OperationsConsole.QueueSelection

open Library

abbrev Text := List Char

/-- The signs that `re.escape` writes after a backslash. -/
def specialSigns : Text := "()[]\x7b\x7d?*+-|^$\\.&~# \t\n\r\x0b\x0c".toList

def reEscape (text : Text) : Text := escapeSigns specialSigns text

section Scrape

def queueFamilies : List Text :=
  ["queue_coarse_metrics".toList, "queue_consumer_count".toList, "queue_delivery_metrics".toList,
    "queue_exchange_metrics".toList]

def queueNameRegex (queuePrefix : Text) : Text := '^' :: reEscape queuePrefix

def scrapeParams (queuePrefix : Text) : List (Text × Text) :=
  queueFamilies.map (fun family => ("family".toList, family)) ++
    [("queue".toList, queueNameRegex queuePrefix)]

/-- A broker answers for the queues in whose name it finds the pattern of the parameter `queue`. -/
def ListsFound (scraped : List (Text × Text) → Text → Prop) : Prop :=
  ∀ params regex pattern, params.filter (fun param => param.1 = "queue".toList) =
      [("queue".toList, regex)] →
    readPattern regex = some pattern → ∀ name, scraped params name ↔ pattern.Found name

end Scrape

section Queries

def queueMatcher (discogsPrefix musicbrainzPrefix : Text) : Text :=
  let alternation := reEscape discogsPrefix ++ '|' :: reEscape musicbrainzPrefix
  "queue=~\"".toList ++ '(' :: doubled alternation ++ ").*".toList ++ ['"']

def gaugeQuery (metric : String) (labels : Text) : Text :=
  "sum by (queue) (".toList ++ metric.toList ++ '{' :: labels ++ '}' :: ")".toList

def rateQuery (metric : String) (labels window : Text) : Text :=
  "sum by (queue) (rate(".toList ++ metric.toList ++ '{' :: labels ++
    '}' :: ('[' :: window ++ "]))".toList)

def queueQueries (discogsPrefix musicbrainzPrefix window : Text) : List (String × Text) :=
  let labels := queueMatcher discogsPrefix musicbrainzPrefix
  [("messages_ready", gaugeQuery "rabbitmq_queue_messages_ready" labels),
    ("messages_unacknowledged", gaugeQuery "rabbitmq_queue_messages_unacked" labels),
    ("messages_total", gaugeQuery "rabbitmq_queue_messages" labels),
    ("consumers", gaugeQuery "rabbitmq_queue_consumers" labels),
    ("publish_rate",
      rateQuery "rabbitmq_detailed_queue_exchange_messages_published_total" labels window),
    ("ack_rate", rateQuery "rabbitmq_detailed_queue_messages_acked_total" labels window)]

/-- The query for the messages that the queues of a pipeline acknowledged. -/
def ackedQuery (queuePrefix : Text) : Text :=
  gaugeQuery "rabbitmq_detailed_queue_messages_acked_total"
    ("queue=~\"".toList ++ doubled (reEscape queuePrefix) ++ "-.*".toList ++ ['"'])

/-- A text that can stand in the quotes of a query. -/
def IsQuotable (text : Text) : Prop := '"' ∉ text ∧ '\n' ∉ text

/-- The labels of a query that select a pattern. -/
def queueLabels (regex : Text) : Text := "queue=~\"".toList ++ doubled regex ++ ['"']

def isMetricName (metric : String) : Bool :=
  metric.toList.all fun symbol => symbol.isAlphanum || symbol == '_'

/-- A number of seconds, minutes, hours or days. -/
def isDuration (window : Text) : Bool :=
  !window.dropLast.isEmpty && window.dropLast.all Char.isDigit &&
    window.getLast?.any "smhd".toList.contains

/-- A query sums the queues whose whole name the pattern in its quotes matches. -/
structure SumsWhole (summed : Text → Text → Prop) : Prop where
  gauge : ∀ metric regex pattern, isMetricName metric = true → IsQuotable regex →
    readPattern regex = some pattern →
      ∀ name, summed (gaugeQuery metric (queueLabels regex)) name ↔ pattern.Whole name
  rate : ∀ metric regex window pattern, isMetricName metric = true → isDuration window = true →
    IsQuotable regex → readPattern regex = some pattern →
      ∀ name, summed (rateQuery metric (queueLabels regex) window) name ↔ pattern.Whole name

end Queries

section Reading

/-- Every sign of the patterns is one that is escaped. -/
theorem specialSigns_cover (symbol : Char) (sign : isPatternSign symbol = true) :
    symbol ∈ specialSigns := by
  simp only [isPatternSign, isUnread, List.contains_cons, List.contains_nil, Bool.or_false,
    Bool.or_eq_true, beq_iff_eq] at sign
  unfold specialSigns
  rcases sign with (same | same | same | same | same | same | same) |
    same | same | same | same | same <;> rw [same] <;> decide

/-- Every sign that is escaped may be escaped. -/
theorem specialSigns_escapable : ∀ symbol ∈ specialSigns, isEscapable symbol = true :=
  forall_of_all _ _ (by decide)

/-- An escaped word stands for its plain symbols. -/
theorem escaped_signs (word rest : Text) :
    patternSigns (reEscape word ++ rest) =
      (patternSigns rest).map (word.map PatternSign.plain ++ ·) :=
  patternSigns_escape specialSigns specialSigns_cover specialSigns_escapable word rest

/-- The pattern of the scrape starts with the prefix. -/
theorem readPattern_start (queuePrefix : Text) :
    readPattern (queueNameRegex queuePrefix) =
      some (.follow .start (.literal queuePrefix .empty)) := by
  have signs := escaped_signs queuePrefix []
  rw [List.append_nil] at signs
  apply readPattern_of_signs _ (.start :: queuePrefix.map .plain)
    { parts := (queuePrefix.map .symbol).reverse ++ [.start] }
  · rw [queueNameRegex, patternSigns_cons _ _ (by decide) (by decide), signs]
    simp [patternSigns, signOf]
  · rw [List.foldlM_cons]
    exact foldlM_plain queuePrefix { parts := [.start] } []
  · exact branch_word [.start] queuePrefix .empty

/-- One of two prefixes, and what stands on the line after it. -/
theorem readPattern_either (first second : Text) :
    readPattern ('(' :: (reEscape first ++ '|' :: reEscape second) ++ ").*".toList) =
      some (.follow (.either (.literal first .empty) (.literal second .empty))
        (.follow (.repeated .any) .empty)) := by
  have branch (branches : List TextPattern) (word : Text) :
      (PatternGroup.mk branches ((word.map .symbol).reverse ++ [])).branch = .literal word .empty :=
    branch_word [] word .empty
  apply readPattern_of_signs _ (.opening :: (first.map .plain ++ .bar :: (second.map .plain ++
    [.closing, .any, .star])))
    { parts := [.repeated .any, .either (.literal first .empty) (.literal second .empty)] }
  · rw [List.cons_append, List.append_assoc, patternSigns_cons _ _ (by decide) (by decide),
      escaped_signs, List.cons_append, patternSigns_cons _ _ (by decide) (by decide), escaped_signs]
    rfl
  · rw [List.foldlM_cons]
    change (first.map PatternSign.plain ++ _).foldlM readSign [{}, {}] = _
    rw [List.foldlM_append, foldlM_plain]
    change (second.map PatternSign.plain ++ _).foldlM readSign
      [{ branches := [PatternGroup.branch _] }, {}] = _
    rw [List.foldlM_append, foldlM_plain, branch]
    change some [PatternGroup.mk [] [.repeated .any, .either _ (PatternGroup.branch _)]] = _
    rw [branch]
  · rfl

/-- The pattern of a summed query is the prefix, a hyphen, and any rest. -/
theorem readPattern_line (word : Text) :
    readPattern (reEscape word ++ "-.*".toList) =
      some (.literal word (.follow (.symbol '-') (.follow (.repeated .any) .empty))) := by
  apply readPattern_of_signs _ (word.map .plain ++ [.plain '-', .any, .star])
    { parts := [.repeated .any, .symbol '-'] ++ ((word.map .symbol).reverse ++ []) }
  · rw [escaped_signs]
    rfl
  · rw [List.foldlM_append, foldlM_plain]
    rfl
  · exact branch_word [] word _

end Reading

section Selections

/-- The queues whose names go on after a prefix, on one line. -/
def GoesOn (queuePrefix name : Text) : Prop := ∃ rest, name = queuePrefix ++ rest ∧ '\n' ∉ rest

/-- The pattern of the scrape is found exactly in the names with the prefix. -/
theorem found_start_iff (word name : Text) :
    (TextPattern.follow .start (.literal word .empty)).Found name ↔ word <+: name := by
  constructor
  · intro found
    obtain ⟨earlier, part, rest, same, matched⟩ := found
    obtain ⟨front, later, joined, started, read⟩ :=
      (TextPattern.matches_follow_iff _ _ _ _).mp matched
    obtain ⟨first, nothing⟩ := (TextPattern.matches_start_iff _ _).mp started
    rw [same, first, joined, nothing, (TextPattern.matches_word_iff _ _ _).mp read]
    exact ⟨rest, rfl⟩
  · intro starts
    obtain ⟨rest, same⟩ := starts
    refine ⟨[], word, rest, same.symm, (TextPattern.matches_follow_iff _ _ _ _).mpr ?_⟩
    exact ⟨[], word, rfl, .start, (TextPattern.matches_word_iff _ _ _).mpr rfl⟩

/-- The pattern of the history matches the names that go on after one of the prefixes. -/
theorem whole_either_iff (first second name : Text) :
    (TextPattern.follow (.either (.literal first .empty) (.literal second .empty))
      (.follow (.repeated .any) .empty)).Whole name ↔ GoesOn first name ∨ GoesOn second name := by
  rw [TextPattern.Whole, TextPattern.matches_follow_iff]
  simp only [TextPattern.matches_either_iff, TextPattern.matches_word_iff,
    TextPattern.matches_rest_iff]
  constructor
  · intro found
    obtain ⟨front, rest, same, one | other, line⟩ := found
    · exact .inl ⟨rest, by rw [same, one], line⟩
    · exact .inr ⟨rest, by rw [same, other], line⟩
  · intro goes
    rcases goes with ⟨rest, same, line⟩ | ⟨rest, same, line⟩
    · exact ⟨first, rest, same, .inl rfl, line⟩
    · exact ⟨second, rest, same, .inr rfl, line⟩

/-- The pattern of a summed query matches the names that go on after the prefix and a hyphen. -/
theorem whole_line_iff (word name : Text) :
    (TextPattern.literal word (.follow (.symbol '-') (.follow (.repeated .any) .empty))).Whole
      name ↔ GoesOn (word ++ ['-']) name := by
  rw [TextPattern.Whole, TextPattern.matches_literal_iff]
  constructor
  · intro found
    obtain ⟨later, same, matched⟩ := found
    obtain ⟨front, rest, joined, dash, line⟩ := (TextPattern.matches_follow_iff _ _ _ _).mp matched
    rw [joined, (TextPattern.matches_symbol_iff _ _ _).mp dash] at same
    exact ⟨rest, by rw [same, List.append_assoc], (TextPattern.matches_rest_iff _ _).mp line⟩
  · intro goes
    obtain ⟨rest, same, line⟩ := goes
    rw [List.append_assoc] at same
    exact ⟨'-' :: rest, same, .follow _ _ _ ['-'] rest (.symbol _ '-')
      ((TextPattern.matches_rest_iff _ _).mpr line)⟩

/-- Two texts can be quoted together exactly if each of them can. -/
theorem isQuotable_append (first second : Text) :
    IsQuotable (first ++ second) ↔ IsQuotable first ∧ IsQuotable second := by
  simp only [IsQuotable, List.mem_append, not_or]
  exact and_and_and_comm

/-- Escaping neither adds nor takes a quote. -/
theorem isQuotable_escape (word : Text) : IsQuotable (reEscape word) ↔ IsQuotable word := by
  have kept (symbol : Char) (other : symbol ≠ '\\') : symbol ∈ reEscape word ↔ symbol ∈ word := by
    unfold reEscape escapeSigns
    rw [List.mem_flatMap]
    constructor
    · intro written
      obtain ⟨sign, member, inside⟩ := written
      split at inside
      · simp only [List.mem_cons, other, List.not_mem_nil, false_or, or_false] at inside
        exact inside ▸ member
      · exact List.mem_singleton.mp inside ▸ member
    · intro member
      refine ⟨symbol, member, ?_⟩
      split <;> simp
  rw [IsQuotable, IsQuotable, kept _ (by decide), kept _ (by decide)]

end Selections

section Law

/-- The pattern of the history. -/
def historyRegex (discogsPrefix musicbrainzPrefix : Text) : Text :=
  '(' :: (reEscape discogsPrefix ++ '|' :: reEscape musicbrainzPrefix) ++ ").*".toList

def ackedRegex (queuePrefix : Text) : Text := reEscape queuePrefix ++ "-.*".toList

/-- The pattern of the history can be quoted exactly if both prefixes can. -/
theorem isQuotable_history (discogsPrefix musicbrainzPrefix : Text) :
    IsQuotable (historyRegex discogsPrefix musicbrainzPrefix) ↔
      IsQuotable discogsPrefix ∧ IsQuotable musicbrainzPrefix := by
  have bar (word : Text) : IsQuotable ('|' :: word) ↔ IsQuotable word := by simp [IsQuotable]
  have opening (word : Text) : IsQuotable ('(' :: word) ↔ IsQuotable word := by simp [IsQuotable]
  have rest : IsQuotable ").*".toList := by simp [IsQuotable]
  rw [historyRegex, isQuotable_append, opening, isQuotable_append, isQuotable_escape, bar,
    isQuotable_escape]
  exact and_iff_left rest

/-- The pattern of a summed query can be quoted exactly if its prefix can. -/
theorem isQuotable_acked (queuePrefix : Text) :
    IsQuotable (ackedRegex queuePrefix) ↔ IsQuotable queuePrefix := by
  have rest : IsQuotable "-.*".toList := by simp [IsQuotable]
  rw [ackedRegex, isQuotable_append, isQuotable_escape]
  exact and_iff_left rest

/-- The history matches the queues by one label. -/
theorem queueMatcher_labels (discogsPrefix musicbrainzPrefix : Text) :
    queueMatcher discogsPrefix musicbrainzPrefix =
      queueLabels (historyRegex discogsPrefix musicbrainzPrefix) := by
  have opening (word : Text) : doubled ('(' :: word) = '(' :: doubled word := by
    rw [doubled_cons, if_neg (by decide)]
    rfl
  have rest : doubled ").*".toList = ").*".toList := doubled_of_free _ (by simp)
  unfold queueLabels historyRegex queueMatcher
  generalize "queue=~\"".toList = label
  generalize ").*".toList = line at rest ⊢
  rw [doubled_append, opening, rest]
  simp

/-- The query of the acknowledgements is one gauge over the queues of a prefix. -/
theorem ackedQuery_gauge (queuePrefix : Text) : ackedQuery queuePrefix =
    gaugeQuery "rabbitmq_detailed_queue_messages_acked_total"
      (queueLabels (ackedRegex queuePrefix)) := by
  have rest : doubled "-.*".toList = "-.*".toList := doubled_of_free _ (by simp)
  have labels : "queue=~\"".toList ++ doubled (reEscape queuePrefix) ++ "-.*".toList ++ ['"'] =
      queueLabels (ackedRegex queuePrefix) := by
    unfold queueLabels ackedRegex
    generalize "queue=~\"".toList = label
    generalize "-.*".toList = line at rest ⊢
    rw [doubled_append, rest]
    simp
  rw [ackedQuery, labels]

/-- The scrape lists exactly the queues with the prefix. -/
theorem scraped_iff (scraped : List (Text × Text) → Text → Prop) (broker : ListsFound scraped)
    (queuePrefix name : Text) :
    scraped (scrapeParams queuePrefix) name ↔ queuePrefix <+: name := by
  have asked : (scrapeParams queuePrefix).filter (fun param => param.1 = "queue".toList) =
      [("queue".toList, queueNameRegex queuePrefix)] := by
    simp [scrapeParams, queueFamilies]
  rw [broker _ _ _ asked (readPattern_start queuePrefix), found_start_iff]

/-- A name without a line break goes on after every prefix that it has. -/
theorem goesOn_iff (queuePrefix name : Text) (line : '\n' ∉ name) :
    GoesOn queuePrefix name ↔ queuePrefix <+: name := by
  constructor
  · intro goes
    obtain ⟨rest, same, _⟩ := goes
    exact ⟨rest, same.symm⟩
  · intro starts
    obtain ⟨rest, same⟩ := starts
    refine ⟨rest, same.symm, ?_⟩
    intro inside
    exact line (same ▸ List.mem_append_right queuePrefix inside)

/-- The names of a topology begin with the prefix of their pipeline and a dash. -/
theorem queues_named (config : PipelineConfig) (queue : QueueConfig)
    (listed : queue ∈ config.queues) :
    ∃ consumer ∈ config.consumers, ∃ entity ∈ config.entityTypes,
      queue.name.toList = config.queuePrefix.toList ++ '-' :: (consumer.name.toList ++
        '-' :: entity.toList) := by
  unfold PipelineConfig.queues at listed
  obtain ⟨consumer, member, inside⟩ := List.mem_flatMap.mp listed
  obtain ⟨entity, known, same⟩ := List.mem_map.mp inside
  refine ⟨consumer, member, entity, known, ?_⟩
  rw [← same]
  simp [String.toList_append]

/-- No service and no entity of a pipeline has a line break in its name. -/
theorem pipelineConfigs_plain (discogsPrefix musicbrainzPrefix : String) :
    ∀ item ∈ (pipelineConfigs discogsPrefix musicbrainzPrefix).items,
      (∀ consumer ∈ item.2.consumers, '\n' ∉ consumer.name.toList) ∧
        ∀ entity ∈ item.2.entityTypes, '\n' ∉ entity.toList := by
  simp [pipelineConfigs]

/-- The windows of the selectable ranges are durations. -/
theorem isDuration_window : ∀ spec ∈ History.ranges, isDuration spec.window.toList = true := by
  have all : History.ranges.all (fun spec => isDuration spec.window.toList) = true := by decide
  exact List.all_eq_true.mp all

/-- Each query of the history sums the queues that go on after one of the prefixes. -/
theorem summed_queueQueries (summed : Text → Text → Prop) (store : SumsWhole summed)
    (discogsPrefix musicbrainzPrefix window : Text) (duration : isDuration window = true)
    (discogs : IsQuotable discogsPrefix) (musicbrainz : IsQuotable musicbrainzPrefix) :
    ∀ item ∈ queueQueries discogsPrefix musicbrainzPrefix window, ∀ name,
      summed item.2 name ↔ GoesOn discogsPrefix name ∨ GoesOn musicbrainzPrefix name := by
  have quotable := (isQuotable_history discogsPrefix musicbrainzPrefix).mpr ⟨discogs, musicbrainz⟩
  have read := readPattern_either discogsPrefix musicbrainzPrefix
  have gauge (metric : String) (plain : isMetricName metric = true) (name : Text) :=
    (store.gauge metric _ _ plain quotable read name).trans (whole_either_iff _ _ _)
  have rate (metric : String) (plain : isMetricName metric = true) (name : Text) :=
    (store.rate metric _ window _ plain duration quotable read name).trans (whole_either_iff _ _ _)
  unfold queueQueries
  dsimp only
  rw [queueMatcher_labels]
  simp only [List.forall_mem_cons, List.not_mem_nil, false_implies, implies_true, and_true]
  exact ⟨gauge _ (by decide), gauge _ (by decide), gauge _ (by decide), gauge _ (by decide),
    rate _ (by decide), rate _ (by decide)⟩

/-- The store sums exactly the queues that go on after the prefix and a hyphen. -/
theorem summed_ackedQuery (summed : Text → Text → Prop) (store : SumsWhole summed)
    (queuePrefix : Text) (quotable : IsQuotable queuePrefix) (name : Text) :
    summed (ackedQuery queuePrefix) name ↔ GoesOn (queuePrefix ++ ['-']) name := by
  rw [ackedQuery_gauge, store.gauge _ _ _ (by decide) ((isQuotable_acked queuePrefix).mpr quotable)
    (readPattern_line queuePrefix), whole_line_iff]

/-- The live view, the history and the progress of a run ask for the same queues. The broker and the
store of the history have their own readers. -/
structure QueueSelectionLaw (scraped : List (Text × Text) → Text → Prop)
    (summed : Text → Text → Prop) (discogsPrefix musicbrainzPrefix : String) : Prop where
  live : ∀ (queuePrefix : String) (broker : Samples) key sample,
    (selectQueues queuePrefix broker).get? key = some sample ↔
      broker.get? key = some sample ∧ scraped (scrapeParams queuePrefix.toList) key.2.toList
  twice : (∃ name, scraped (scrapeParams discogsPrefix.toList) name ∧
      scraped (scrapeParams musicbrainzPrefix.toList) name) ↔
    discogsPrefix.toList <+: musicbrainzPrefix.toList ∨
      musicbrainzPrefix.toList <+: discogsPrefix.toList
  history : IsQuotable discogsPrefix.toList → IsQuotable musicbrainzPrefix.toList →
    ∀ spec ∈ History.ranges,
      ∀ item ∈ queueQueries discogsPrefix.toList musicbrainzPrefix.toList spec.window.toList,
        ∀ name, '\n' ∉ name → (summed item.2 name ↔
          scraped (scrapeParams discogsPrefix.toList) name ∨
            scraped (scrapeParams musicbrainzPrefix.toList) name)
  progress : ∀ queuePrefix : Text, IsQuotable queuePrefix → ∀ name, '\n' ∉ name →
    (summed (ackedQuery queuePrefix) name ↔ scraped (scrapeParams (queuePrefix ++ ['-'])) name)
  topology : ∀ item ∈ (pipelineConfigs discogsPrefix musicbrainzPrefix).items,
    ∀ queue ∈ item.2.queues, ∀ name ∈ [queue.name.toList, queue.deadLetterQueue.toList],
      scraped (scrapeParams (item.2.queuePrefix.toList ++ ['-'])) name ∧
        (IsQuotable item.2.queuePrefix.toList → '\n' ∉ name)

/-- The live view, the history and the progress select their queues by the prefixes. -/
theorem queueSelection_law (scraped : List (Text × Text) → Text → Prop)
    (summed : Text → Text → Prop) (broker : ListsFound scraped) (store : SumsWhole summed)
    (discogsPrefix musicbrainzPrefix : String) :
    QueueSelectionLaw scraped summed discogsPrefix musicbrainzPrefix where
  live := by
    intro queuePrefix samples key sample
    rw [selectQueues, Dict.get?_filter, Option.filter_eq_some_iff, decide_eq_true_eq,
      scraped_iff scraped broker]
  twice := by
    simp only [scraped_iff scraped broker]
    constructor
    · intro both
      obtain ⟨name, one, other⟩ := both
      exact List.prefix_or_prefix_of_prefix one other
    · intro nested
      rcases nested with first | second
      · exact ⟨_, first, List.prefix_rfl⟩
      · exact ⟨_, List.prefix_rfl, second⟩
  history := by
    intro discogs musicbrainz spec range item listed name line
    rw [summed_queueQueries summed store _ _ _ (isDuration_window spec range) discogs musicbrainz
      item listed, goesOn_iff _ _ line, goesOn_iff _ _ line, scraped_iff scraped broker,
      scraped_iff scraped broker]
  progress := by
    intro queuePrefix quotable name line
    rw [summed_ackedQuery summed store queuePrefix quotable, goesOn_iff _ _ line,
      scraped_iff scraped broker]
  topology := by
    intro item known queue listed name chosen
    obtain ⟨consumer, member, entity, kind, named⟩ := queues_named item.2 queue listed
    have plain := pipelineConfigs_plain discogsPrefix musicbrainzPrefix item known
    obtain ⟨suffix, ending, whole⟩ :
        ∃ suffix, '\n' ∉ suffix ∧ name = queue.name.toList ++ suffix := by
      simp only [List.mem_cons, List.not_mem_nil, or_false] at chosen
      rcases chosen with same | same
      · exact ⟨[], List.not_mem_nil, by rw [same, List.append_nil]⟩
      · refine ⟨".dlq".toList, by simp, ?_⟩
        rw [same, QueueConfig.deadLetterQueue, String.toList_append]
    rw [whole, named, scraped_iff scraped broker]
    constructor
    · refine ⟨consumer.name.toList ++ '-' :: entity.toList ++ suffix, ?_⟩
      simp
    · intro quotable inside
      simp only [List.mem_append, List.mem_cons] at inside
      rcases inside with (front | dash | own | dash | type) | last
      · exact quotable.2 front
      · cases dash
      · exact plain.1 consumer member own
      · cases dash
      · exact plain.2 entity kind type
      · exact ending last

end Law

section Readers

/-- A broker that reads the parameter `queue`. -/
def FoundIn (params : List (Text × Text)) (name : Text) : Prop :=
  ∃ param pattern, param ∈ params ∧ param.1 = "queue".toList ∧
    readPattern param.2 = some pattern ∧ pattern.Found name

/-- A broker that searches each name lists what it finds. -/
theorem listsFound_foundIn : ListsFound FoundIn := by
  intro params regex pattern asked read name
  have only (param : Text × Text) : param ∈ params ∧ param.1 = "queue".toList ↔
      param = ("queue".toList, regex) := by
    have listed : param ∈ [("queue".toList, regex)] ↔ param = ("queue".toList, regex) :=
      List.mem_singleton
    rw [← listed, ← asked, List.mem_filter, decide_eq_true_eq]
  constructor
  · intro found
    obtain ⟨param, other, member, named, same, matched⟩ := found
    rw [(only param).mp ⟨member, named⟩, read, Option.some.injEq] at same
    exact same ▸ matched
  · intro found
    obtain ⟨member, named⟩ := (only _).mpr rfl
    exact ⟨_, pattern, member, named, read, found⟩

/-- The label of a query with the pattern that its values match. -/
def readSelector (query : Text) : Option (Text × Text) :=
  let labels := afterFirst (· == '{') query
  match fromFirst (· == '=') labels with
  | '=' :: '~' :: '"' :: quoted => (readQuoted quoted).bind fun read =>
      if read.2.head? = some '}' then some (before (· == '=') labels, read.1) else none
  | _ => none

/-- A store that reads the first selector of a query. -/
def Summed (query name : Text) : Prop :=
  ∃ regex pattern, readSelector query = some ("queue".toList, regex) ∧
    readPattern regex = some pattern ∧ pattern.Whole name

/-- The pattern of a query is read back if it can stand in quotes. -/
theorem readSelector_labels (front regex back : Text) (plain : '{' ∉ front)
    (quotable : IsQuotable regex) :
    readSelector (front ++ '{' :: queueLabels regex ++ '}' :: back) =
      some ("queue".toList, regex) := by
  have shape : front ++ '{' :: queueLabels regex ++ '}' :: back =
      front ++ '{' :: ("queue=~\"".toList ++ (doubled regex ++ '"' :: '}' :: back)) := by
    unfold queueLabels
    generalize "queue=~\"".toList = label
    simp
  have inside : afterFirst (· == '{') (front ++ '{' :: queueLabels regex ++ '}' :: back) =
      "queue=~\"".toList ++ (doubled regex ++ '"' :: '}' :: back) := by
    rw [shape, afterFirst, fromFirst_append _ _ _ ?_]
    · rfl
    · intro symbol member
      rw [beq_eq_false_iff_ne]
      intro same
      exact plain (same ▸ member)
  unfold readSelector
  rw [inside]
  change (readQuoted (doubled regex ++ '"' :: '}' :: back)).bind (fun read =>
    if read.2.head? = some '}' then some ("queue".toList, read.1) else none) = _
  rw [(readQuoted_doubled_iff regex _ _).mpr ⟨quotable, rfl⟩]
  rfl

/-- The name of a metric opens no selector. -/
theorem metricName_plain (metric : String) (named : isMetricName metric = true) :
    '{' ∉ metric.toList := by
  intro member
  exact absurd (List.all_eq_true.mp named '{' member) (by decide)

/-- A store reads the quoted pattern of a selector and matches whole names. -/
theorem summed_iff (front regex back : Text) (plain : '{' ∉ front) (quotable : IsQuotable regex)
    (pattern : TextPattern) (read : readPattern regex = some pattern) (name : Text) :
    Summed (front ++ '{' :: queueLabels regex ++ '}' :: back) name ↔ pattern.Whole name := by
  have selected := readSelector_labels front regex back plain quotable
  constructor
  · intro summed
    obtain ⟨other, matched, found, same, whole⟩ := summed
    rw [selected, Option.some.injEq, Prod.mk.injEq] at found
    rw [← found.2, read, Option.some.injEq] at same
    exact same ▸ whole
  · intro whole
    exact ⟨regex, pattern, selected, read, whole⟩

/-- A store that reads selectors sums whole matches. -/
theorem sumsWhole_summed : SumsWhole Summed where
  gauge := by
    intro metric regex pattern named quotable read name
    have front : '{' ∉ "sum by (queue) (".toList ++ metric.toList := by
      rw [List.mem_append, not_or]
      exact ⟨by simp, metricName_plain metric named⟩
    exact summed_iff _ regex ")".toList front quotable pattern read name
  rate := by
    intro metric regex window pattern named _ quotable read name
    have front : '{' ∉ "sum by (queue) (rate(".toList ++ metric.toList := by
      rw [List.mem_append, not_or]
      exact ⟨by simp, metricName_plain metric named⟩
    exact summed_iff _ regex ('[' :: window ++ "]))".toList) front quotable pattern read name

/-- The law for the prefixes of the contract. -/
theorem queueSelection_law_groovemap :
    QueueSelectionLaw FoundIn Summed "groovemap-discogs" "groovemap-musicbrainz" :=
  queueSelection_law FoundIn Summed listsFound_foundIn sumsWhole_summed _ _

end Readers

end OperationsConsole.QueueSelection
