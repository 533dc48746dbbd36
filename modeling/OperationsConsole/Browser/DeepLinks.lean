/-
This file embeds the deep links of the console: the base URLs that `dashboard/deep_links.py` serves,
and the links that the page builds under them.
-/

import OperationsConsole.Browser.QueryText
import OperationsConsole.Library.Ascii
import OperationsConsole.Library.Raising
import OperationsConsole.Targets.SharedTarget

namespace OperationsConsole.Browser.DeepLinks

open Library
open Redaction (Text Unicode ValueError SplitResult urlsplit strippedUrl splitScheme splitNetloc
  splitRest isScheme isDelimiter parseQsl checkBrackets checkNetloc)
open Targets (strip rstripSlashes marked splitRest_marked)

section Server

variable (unicode : Unicode)

def baseUrl (setting : Option Text) : Except ValueError (Option Text) := do
  let value := rstripSlashes (strip (setting.getD []))
  let parts ← urlsplit unicode value
  let isWeb := ["http".toList, "https".toList].contains parts.scheme
  if isWeb = false ∨ parts.netloc = [] then return none
  else return some value

structure LinkBases where
  grafana : Option Text
  traces : Option Text

/-- The bases of `GRAFANA_URL` and `TRACES_URL`. -/
def deepLinkBases (grafanaUrl tracesUrl : Option Text) : Except ValueError LinkBases := do
  let grafana ← baseUrl unicode grafanaUrl
  let traces ← baseUrl unicode tracesUrl
  return ⟨grafana, traces.or grafana⟩

end Server

section Page

inductive Dashboard where
  | pipeline
  | consumers
  | infrastructure
  | ingestion
  | neo4j
  | traces
  deriving DecidableEq

def Dashboard.uid : Dashboard → Text
  | pipeline => "groovemap-pipeline-overview".toList
  | consumers => "groovemap-consumers".toList
  | infrastructure => "groovemap-infrastructure".toList
  | ingestion => "groovemap-ingestion".toList
  | neo4j => "groovemap-neo4j".toList
  | traces => "groovemap-traces".toList

structure LinkSpec where
  label : String
  dashboard : Dashboard
  vars : List (Text × Text)

/-- An answer that is not a success leaves the page without bases. -/
def fetchLinkBases (answer : Except ValueError LinkBases) : LinkBases :=
  match answer with
  | .ok bases => bases
  | .error _ => ⟨none, none⟩

/-- `RANGE_PATTERN` takes digits and one of three units. -/
def isRange (range : Text) : Bool :=
  let digits := range.dropLast
  decide (digits ≠ []) && digits.all Char.isDigit &&
    range.getLast?.any fun unit => unit == 'm' || unit == 'h' || unit == 'd'

/-- The start of a range. It ends now. -/
def timeRange (range : Text) : Text :=
  "now-".toList ++ if isRange range then range else "24h".toList

/-- The parameters of a link. -/
def linkQuery (vars : List (Text × Text)) (range : Text) : List (Text × Text) :=
  vars.map (fun var => ("var-".toList ++ var.1, var.2)) ++
    [("from".toList, timeRange range), ("to".toList, "now".toList)]

def dashboardUrl (base : Option Text) (key : Dashboard) (vars : List (Text × Text)) (range : Text) :
    Option Text :=
  base.map fun base => base ++ "/d/".toList ++ encodeURIComponent key.uid ++
    '?' :: componentQuery (linkQuery vars range)

def baseOf (bases : LinkBases) (spec : LinkSpec) : Option Text :=
  if spec.dashboard = .traces then bases.traces else bases.grafana

def resolve (bases : LinkBases) (spec : LinkSpec) (range : Text) : Option Text :=
  dashboardUrl (baseOf bases spec) spec.dashboard spec.vars range

namespace specs

def queue (pipeline queue deadLetterQueue : Text) : List LinkSpec :=
  [⟨"Queue", .infrastructure, [("queue".toList, queue)]⟩] ++
    (if deadLetterQueue = [] then []
    else [⟨"Dead-letter queue", .infrastructure, [("queue".toList, deadLetterQueue)]⟩]) ++
    [⟨"Pipeline", .pipeline, [("source".toList, pipeline)]⟩]

def producer (pipeline service : Text) : List LinkSpec :=
  [⟨"Grafana", .ingestion, [("service".toList, service), ("source".toList, pipeline)]⟩,
    ⟨"Traces", .traces, [("service".toList, service)]⟩]

def consumer (service : Text) : List LinkSpec :=
  [⟨"Grafana", .consumers, [("service".toList, service)]⟩,
    ⟨"Traces", .traces, [("service".toList, service)]⟩]

def datastore (id : Text) : List LinkSpec :=
  if id = "neo4j".toList then [⟨"Grafana", .neo4j, []⟩]
  else if id = "postgresql".toList then [⟨"Grafana", .infrastructure, []⟩]
  else []

end specs

/-- The links of a set. A base that is missing gives none. -/
def renderLinkSet (bases : LinkBases) (specs : List LinkSpec) (range : Text) : List Text :=
  specs.filterMap fun spec => resolve bases spec range

end Page

section Codes

theorem keptByComponent_clear (symbol : Char) (kept : keptByComponent symbol = true) :
    32 < symbol.toNat ∧ symbol ∉ ['?', '#'] := by
  rw [keptByComponent, Bool.or_eq_true] at kept
  rcases kept with plain | sign
  · rw [isAlphanum_iff] at plain
    refine ⟨by omega, ?_⟩
    intro mark
    simp only [List.mem_cons, List.not_mem_nil, or_false] at mark
    rcases mark with same | same <;> rw [same] at plain <;> revert plain <;> decide
  · exact forall_of_all (fun symbol => 32 < symbol.toNat ∧ symbol ∉ ['?', '#']) "-_.!~*'()".toList
      (by decide) symbol (List.contains_iff_mem.mp sign)

theorem upperHexDigit_clear : ∀ value < 16, 32 < (Redaction.upperHexDigit value).toNat ∧
    Redaction.upperHexDigit value ∉ ['?', '#'] := by
  decide

/-- An encoded byte has no mark of a query or of a fragment. -/
theorem componentByte_clear (byte : UInt8) : ∀ symbol ∈ componentByte byte,
    32 < symbol.toNat ∧ symbol ∉ ['?', '#'] := by
  intro symbol member
  unfold componentByte escapeByte at member
  dsimp only at member
  have small := byte.toNat_lt
  split at member
  · rename_i kept
    rw [List.mem_singleton.mp member]
    exact keptByComponent_clear _ kept
  · simp only [List.mem_cons, List.not_mem_nil, or_false] at member
    rcases member with percent | high | low
    · rw [percent]
      decide
    · rw [high]
      exact upperHexDigit_clear _ (by omega)
    · rw [low]
      exact upperHexDigit_clear _ (by omega)

end Codes

section Suffixes

variable (unicode : Unicode) (base suffix : Text) (parts : SplitResult)

/-- What is left of a base when its control characters are gone. -/
theorem strippedUrl_append (filled : strippedUrl base ≠ [])
    (plain : ∀ symbol ∈ suffix, 32 < symbol.toNat) :
    strippedUrl (base ++ suffix) = strippedUrl base ++ suffix := by
  have kept : (suffix.filter fun symbol => symbol ∉ ['\t', '\r', '\n']) = suffix := by
    rw [List.filter_eq_self]
    intro symbol member
    have code := plain symbol member
    rw [decide_eq_true_eq]
    intro dropped
    simp only [List.mem_cons, List.not_mem_nil, or_false] at dropped
    rcases dropped with same | same | same <;> rw [same] at code <;> exact absurd code (by decide)
  unfold strippedUrl at filled ⊢
  have started : base.dropWhile (fun symbol => decide (symbol.toNat ≤ 32)) ≠ [] := by
    intro empty
    rw [empty] at filled
    exact filled rfl
  rw [List.dropWhile_append, if_neg (by simpa using started), List.filter_append, kept]

/-- A path after a location is read as a part of the path. -/
theorem splitNetloc_append (url : Text) (located : (splitNetloc url).1 ≠ [])
    (rooted : suffix.head? = some '/') :
    splitNetloc (url ++ suffix) = ((splitNetloc url).1, (splitNetloc url).2 ++ suffix) := by
  have slashes : ['/', '/'] <+: url := by
    by_contra plain
    rw [splitNetloc, if_neg plain] at located
    exact located rfl
  have dropped : (url ++ suffix).drop 2 = url.drop 2 ++ suffix :=
    List.drop_append_of_le_length slashes.length_le
  obtain ⟨rest, starts⟩ := List.head?_eq_some_iff.mp rooted
  have stopped : before isDelimiter suffix = [] ∧ fromFirst isDelimiter suffix = suffix := by
    rw [starts]
    exact ⟨rfl, rfl⟩
  unfold splitNetloc
  rw [if_pos slashes, if_pos (slashes.trans (List.prefix_append url suffix)), dropped]
  by_cases held : ∃ symbol ∈ url.drop 2, isDelimiter symbol = true
  · have cut := before_append_of_stop isDelimiter (url.drop 2) suffix held
    rw [cut.1, cut.2]
  · have free : ∀ symbol ∈ url.drop 2, isDelimiter symbol = false := by
      intro symbol member
      cases stops : isDelimiter symbol with
      | false => rfl
      | true => exact absurd ⟨symbol, member, stops⟩ held
    rw [before_append _ _ _ free, fromFirst_append _ _ _ free, stopped.1, stopped.2,
      before_of_free _ _ free, fromFirst_of_free _ _ free]
    simp

/-- A base that is read with a location is a scheme and a located rest. -/
theorem urlsplit_eq_ok (read : urlsplit unicode base = .ok parts) :
    checkBrackets unicode (splitNetloc (splitScheme unicode (strippedUrl base)).2).1 = .ok () ∧
    checkNetloc unicode (splitNetloc (splitScheme unicode (strippedUrl base)).2).1 = .ok () ∧
    parts = splitRest (splitScheme unicode (strippedUrl base)).1
      (splitNetloc (splitScheme unicode (strippedUrl base)).2).1
      (splitNetloc (splitScheme unicode (strippedUrl base)).2).2 := by
  unfold urlsplit at read
  dsimp only at read
  obtain ⟨_, brackets, read⟩ := (bind_eq_ok_iff _ _ _).mp read
  obtain ⟨_, normal, read⟩ := (bind_eq_ok_iff _ _ _).mp read
  exact ⟨brackets, normal, (Except.ok.inj read).symm⟩

/-- A path that is written after a base is read under the location of the base. -/
theorem urlsplit_append (read : urlsplit unicode base = .ok parts) (schemed : parts.scheme ≠ [])
    (located : parts.netloc ≠ []) (rooted : suffix.head? = some '/')
    (plain : ∀ symbol ∈ suffix, 32 < symbol.toNat) :
    ∃ rest, rest ⊆ base ∧ parts = splitRest parts.scheme parts.netloc rest ∧
      urlsplit unicode (base ++ suffix) =
        .ok (splitRest parts.scheme parts.netloc (rest ++ suffix)) := by
  obtain ⟨brackets, normal, built⟩ := urlsplit_eq_ok unicode base parts read
  have named : ((strippedUrl base).contains ':' &&
      isScheme (before (· == ':') (strippedUrl base))) = true := by
    by_contra other
    apply schemed
    rw [built]
    change (splitScheme unicode (strippedUrl base)).1 = []
    unfold splitScheme
    dsimp only
    rw [if_neg other]
  have colon : ∃ symbol ∈ strippedUrl base, (symbol == ':') = true := by
    rw [Bool.and_eq_true, List.contains_iff_mem] at named
    exact ⟨':', named.1, rfl⟩
  have filled : strippedUrl base ≠ [] := by
    obtain ⟨symbol, member, _⟩ := colon
    exact List.ne_nil_of_mem member
  have cut := before_append_of_stop (· == ':') (strippedUrl base) suffix colon
  have scheme : splitScheme unicode (strippedUrl (base ++ suffix)) =
      ((splitScheme unicode (strippedUrl base)).1,
        (splitScheme unicode (strippedUrl base)).2 ++ suffix) := by
    rw [strippedUrl_append base suffix filled plain]
    have holds : (strippedUrl base ++ suffix).contains ':' = true := by
      rw [List.contains_iff_mem, List.mem_append]
      obtain ⟨symbol, member, same⟩ := colon
      exact .inl (beq_iff_eq.mp same ▸ member)
    have after : afterFirst (· == ':') (strippedUrl base ++ suffix) =
        afterFirst (· == ':') (strippedUrl base) ++ suffix := by
      unfold afterFirst
      rw [cut.2]
      rcases fromFirst_cases (· == ':') (strippedUrl base) with empty | ⟨symbol, rest, starts, _⟩
      · rw [fromFirst, List.dropWhile_eq_nil_iff] at empty
        obtain ⟨symbol, member, stops⟩ := colon
        have free := empty symbol member
        rw [stops] at free
        cases free
      · rw [starts, List.cons_append, List.tail_cons, List.tail_cons]
    unfold splitScheme
    dsimp only
    rw [cut.1, holds, after, Bool.true_and, if_pos named, if_pos (Bool.and_eq_true _ _ ▸ named).2]
  have netloc : parts.netloc = (splitNetloc (splitScheme unicode (strippedUrl base)).2).1 := by
    rw [built]
    rfl
  have split := splitNetloc_append suffix (splitScheme unicode (strippedUrl base)).2
    (netloc ▸ located) rooted
  refine ⟨(splitNetloc (splitScheme unicode (strippedUrl base)).2).2, ?_, ?_, ?_⟩
  · have inside : strippedUrl base ⊆ base := by
      intro symbol member
      exact (List.dropWhile_sublist _).subset (List.mem_filter.mp member).1
    have after : (splitScheme unicode (strippedUrl base)).2 ⊆ strippedUrl base := by
      unfold splitScheme
      dsimp only
      rw [if_pos named]
      exact afterFirst_subset _ _
    exact List.Subset.trans (Targets.splitNetloc_subset _).2 (List.Subset.trans after inside)
  · rw [built]
    rfl
  · unfold urlsplit
    dsimp only
    rw [scheme]
    dsimp only
    rw [split]
    dsimp only
    rw [brackets, normal, built]
    rfl

end Suffixes

section Law

variable (unicode : Unicode)

theorem encode_uid (key : Dashboard) : encodeURIComponent key.uid = key.uid := by
  cases key <;> decide +kernel

theorem uid_clear (key : Dashboard) :
    ∀ symbol ∈ key.uid, 32 < symbol.toNat ∧ symbol ∉ ['?', '#'] := by
  apply forall_of_all
  cases key <;> decide +kernel

/-- An encoded text has no mark of a query or of a fragment. -/
theorem codeText_clear (text : Text) : ∀ symbol ∈ codeText componentByte text,
    32 < symbol.toNat ∧ symbol ∉ ['?', '#'] := by
  intro symbol member
  obtain ⟨byte, _, inside⟩ := List.mem_flatMap.mp member
  exact componentByte_clear byte symbol inside

/-- An encoded query has no mark of a query or of a fragment. -/
theorem componentQuery_clear (query : List (Text × Text)) : ∀ symbol ∈ componentQuery query,
    32 < symbol.toNat ∧ symbol ∉ ['?', '#'] := by
  have field : ∀ pair : Text × Text, ∀ symbol ∈ codeText componentByte pair.1 ++
      '=' :: codeText componentByte pair.2, 32 < symbol.toNat ∧ symbol ∉ ['?', '#'] := by
    intro pair symbol member
    rw [List.mem_append, List.mem_cons] at member
    rcases member with name | sign | value
    · exact codeText_clear pair.1 symbol name
    · rw [sign]
      decide
    · exact codeText_clear pair.2 symbol value
  unfold componentQuery queryText
  induction query with
  | nil =>
      intro symbol member
      exact absurd member List.not_mem_nil
  | cons pair rest ih =>
      cases rest with
      | nil =>
          rw [List.map_cons, List.map_nil, List.intercalate_singleton]
          exact field pair
      | cons next rest =>
          intro symbol member
          rw [List.map_cons, List.map_cons, List.intercalate_cons_cons, List.append_assoc] at member
          rcases List.mem_append.mp member with own | later
          · exact field pair symbol own
          · rcases List.mem_append.mp later with sign | later
            · rw [List.mem_singleton.mp sign]
              decide
            · exact ih symbol later

/-- A base is served only with one of two schemes and a location. -/
theorem baseUrl_eq_some (setting : Option Text) (base : Text)
    (served : baseUrl unicode setting = .ok (some base)) : ∃ parts,
      urlsplit unicode base = .ok parts ∧ parts.scheme ∈ ["http".toList, "https".toList] ∧
      parts.netloc ≠ [] := by
  obtain ⟨parts, read, later⟩ := (bind_eq_ok_iff _ _ _).mp served
  dsimp only at later
  split at later
  · cases later
  · rename_i usable
    rw [not_or, Bool.not_eq_false, List.contains_iff_mem] at usable
    have same := Option.some.inj (Except.ok.inj later)
    rw [same] at read
    exact ⟨parts, read, usable.1, usable.2⟩

/-- What a page links to. -/
structure LinkLaw (grafanaUrl tracesUrl : Option Text) (spec : LinkSpec) (range href : Text)
    (base : Text) (parts : SplitResult) : Prop where
  served : baseUrl unicode grafanaUrl = .ok (some base) ∨
    (spec.dashboard = .traces ∧ baseUrl unicode tracesUrl = .ok (some base))
  web : parts.scheme ∈ ["http".toList, "https".toList] ∧ parts.netloc ≠ []
  reads : urlsplit unicode base = .ok parts
  location : ∃ read, urlsplit unicode href = .ok read ∧ read.scheme = parts.scheme ∧
    read.netloc = parts.netloc
  dashboard : '?' ∉ base → '#' ∉ base → ∃ read, urlsplit unicode href = .ok read ∧
    read.path = parts.path ++ "/d/".toList ++ spec.dashboard.uid ∧ read.fragment = [] ∧
    parseQsl read.query = linkQuery spec.vars range

/-- A link is read under the location of its base. -/
theorem dashboardUrl_reads (base : Text) (parts : SplitResult) (key : Dashboard)
    (vars : List (Text × Text)) (range : Text) (read : urlsplit unicode base = .ok parts)
    (schemed : parts.scheme ≠ []) (located : parts.netloc ≠ []) :
    ∃ href link, dashboardUrl (some base) key vars range = some href ∧
      urlsplit unicode href = .ok link ∧ link.scheme = parts.scheme ∧ link.netloc = parts.netloc ∧
      ('?' ∉ base → '#' ∉ base → link.path = parts.path ++ "/d/".toList ++ key.uid ∧
        link.fragment = [] ∧ parseQsl link.query = linkQuery vars range) := by
  let path := "/d/".toList ++ key.uid
  let query := componentQuery (linkQuery vars range)
  have plain : ∀ symbol ∈ path ++ '?' :: query, 32 < symbol.toNat := by
    intro symbol member
    rw [List.mem_append, List.mem_cons, List.mem_append] at member
    rcases member with (route | uid) | mark | inside
    · exact forall_of_all (32 < ·.toNat) "/d/".toList (by decide) symbol route
    · exact (uid_clear key symbol uid).1
    · rw [mark]
      decide
    · exact (componentQuery_clear _ symbol inside).1
  obtain ⟨rest, inside, built, linked⟩ := urlsplit_append unicode base (path ++ '?' :: query) parts
    read schemed located rfl plain
  refine ⟨base ++ (path ++ '?' :: query), _, ?_, linked, rfl, rfl, ?_⟩
  · simp [dashboardUrl, encode_uid, path, query]
  · intro question hash
    have routeClear : ∀ mark ∈ ['?', '#'], mark ∉ path := by
      intro mark listed member
      rcases List.mem_append.mp member with route | uid
      · exact forall_of_all (· ∉ "/d/".toList) ['?', '#'] (by decide) mark listed route
      · exact (uid_clear key mark uid).2 listed
    have restClear : ∀ mark, mark ∉ base → mark ∉ rest := fun mark absent member =>
      absent (inside member)
    have pathClear : '?' ∉ rest ++ path ∧ '#' ∉ rest ++ path := by
      constructor
      · intro member
        exact (List.mem_append.mp member).elim (restClear '?' question) (routeClear '?' (by decide))
      · intro member
        exact (List.mem_append.mp member).elim (restClear '#' hash) (routeClear '#' (by decide))
    have queryClear : '#' ∉ query := fun member =>
      (componentQuery_clear _ '#' member).2 (by decide)
    have reads : parseQsl query = linkQuery vars range :=
      parseQsl_queryText componentByte queryCode_component _
    have filled : query ≠ [] := by
      intro empty
      rw [empty] at reads
      exact List.append_ne_nil_of_right_ne_nil _ (List.cons_ne_nil _ _) reads.symm
    have parted := splitRest_marked parts.scheme parts.netloc (rest ++ path) query [] pathClear.1
      pathClear.2 queryClear
    have bare := splitRest_marked parts.scheme parts.netloc rest [] [] (restClear '?' question)
      (restClear '#' hash) List.not_mem_nil
    rw [marked, marked, if_pos rfl, if_neg filled, List.append_nil, List.append_assoc] at parted
    simp only [marked, if_true, List.append_nil] at bare
    rw [bare] at built
    rw [parted, built]
    exact ⟨(List.append_assoc rest _ _).symm, rfl, reads⟩

/-- With both bases read, a link has the base of its dashboard. -/
theorem baseOf_eq (grafanaUrl tracesUrl : Option Text) (spec : LinkSpec)
    (grafana traces : Option Text) (one : baseUrl unicode grafanaUrl = .ok grafana)
    (other : baseUrl unicode tracesUrl = .ok traces) :
    baseOf (fetchLinkBases (deepLinkBases unicode grafanaUrl tracesUrl)) spec =
      if spec.dashboard = .traces then traces.or grafana else grafana := by
  unfold deepLinkBases
  rw [one, other]
  rfl

/-- Without both bases read, a link has no base. -/
theorem baseOf_raised (grafanaUrl tracesUrl : Option Text) (spec : LinkSpec)
    (raised : ¬ Returns (baseUrl unicode grafanaUrl) ∨ ¬ Returns (baseUrl unicode tracesUrl)) :
    baseOf (fetchLinkBases (deepLinkBases unicode grafanaUrl tracesUrl)) spec = none := by
  have failed : ∃ failure, deepLinkBases unicode grafanaUrl tracesUrl = .error failure := by
    unfold deepLinkBases
    cases one : baseUrl unicode grafanaUrl with
    | error failure => exact ⟨failure, rfl⟩
    | ok grafana =>
        cases other : baseUrl unicode tracesUrl with
        | error failure => exact ⟨failure, rfl⟩
        | ok traces =>
            rw [one, other] at raised
            simp at raised
  obtain ⟨failure, same⟩ := failed
  rw [same, fetchLinkBases, baseOf]
  exact ite_self none

/-- A page has no link exactly if the server read no base for it. -/
theorem resolve_eq_none_iff (grafanaUrl tracesUrl : Option Text) (spec : LinkSpec) (range : Text) :
    resolve (fetchLinkBases (deepLinkBases unicode grafanaUrl tracesUrl)) spec range = none ↔
      ¬ Returns (baseUrl unicode grafanaUrl) ∨ ¬ Returns (baseUrl unicode tracesUrl) ∨
        (baseUrl unicode grafanaUrl = .ok none ∧
          (spec.dashboard = .traces → baseUrl unicode tracesUrl = .ok none)) := by
  by_cases raised : ¬ Returns (baseUrl unicode grafanaUrl) ∨ ¬ Returns (baseUrl unicode tracesUrl)
  · have absent : resolve (fetchLinkBases (deepLinkBases unicode grafanaUrl tracesUrl)) spec range =
        none := by
      rw [resolve, baseOf_raised unicode grafanaUrl tracesUrl spec raised]
      rfl
    exact iff_of_true absent (raised.elim .inl fun other => .inr (.inl other))
  · rw [not_or, not_not, not_not] at raised
    obtain ⟨⟨grafana, one⟩, ⟨traces, other⟩⟩ := raised
    rw [resolve, dashboardUrl, Option.map_eq_none_iff,
      baseOf_eq unicode grafanaUrl tracesUrl spec grafana traces one other, one, other]
    by_cases view : spec.dashboard = .traces
    · rw [if_pos view]
      simp [view, and_comm]
    · rw [if_neg view]
      simp [view]

/-- Every link stands under a base that the server read for it. -/
theorem linkLaw_of_resolve (grafanaUrl tracesUrl : Option Text) (spec : LinkSpec)
    (range href : Text)
    (found : resolve (fetchLinkBases (deepLinkBases unicode grafanaUrl tracesUrl)) spec range =
      some href) :
    ∃ base parts, LinkLaw unicode grafanaUrl tracesUrl spec range href base parts := by
  have given : baseOf (fetchLinkBases (deepLinkBases unicode grafanaUrl tracesUrl)) spec ≠ none := by
    intro empty
    rw [resolve, empty] at found
    cases found
  obtain ⟨base, same⟩ := Option.ne_none_iff_exists'.mp given
  have returned : Returns (baseUrl unicode grafanaUrl) ∧ Returns (baseUrl unicode tracesUrl) := by
    by_contra raised
    rw [not_and_or] at raised
    rw [baseOf_raised unicode grafanaUrl tracesUrl spec raised] at same
    cases same
  obtain ⟨⟨grafana, one⟩, ⟨traces, other⟩⟩ := returned
  have served : baseUrl unicode grafanaUrl = .ok (some base) ∨
      (spec.dashboard = .traces ∧ baseUrl unicode tracesUrl = .ok (some base)) := by
    have chosen := same
    rw [baseOf_eq unicode grafanaUrl tracesUrl spec grafana traces one other] at chosen
    by_cases view : spec.dashboard = .traces
    · rw [if_pos view, Option.or_eq_some_iff] at chosen
      rcases chosen with own | ⟨_, shared⟩
      · exact .inr ⟨view, own ▸ other⟩
      · exact .inl (shared ▸ one)
    · rw [if_neg view] at chosen
      exact .inl (chosen ▸ one)
  obtain ⟨parts, read, web, located⟩ : ∃ parts, urlsplit unicode base = .ok parts ∧
      parts.scheme ∈ ["http".toList, "https".toList] ∧ parts.netloc ≠ [] :=
    served.elim (baseUrl_eq_some unicode grafanaUrl base)
      fun both => baseUrl_eq_some unicode tracesUrl base both.2
  have schemed : parts.scheme ≠ [] := by
    intro empty
    rw [empty] at web
    exact absurd web (by decide)
  obtain ⟨built, link, links, reads, scheme, netloc, dashboard⟩ :=
    dashboardUrl_reads unicode base parts spec.dashboard spec.vars range read schemed located
  have href_eq : built = href := by
    rw [resolve, same, links] at found
    exact Option.some.inj found
  rw [href_eq] at reads
  exact ⟨base, parts, served, ⟨web, located⟩, read, ⟨link, reads, scheme, netloc⟩,
    fun question hash => ⟨link, reads, dashboard question hash⟩⟩

/-- A page links to a dashboard under a base that the server read, and to nothing else. -/
theorem resolve_law (grafanaUrl tracesUrl : Option Text) (spec : LinkSpec) (range : Text) :
    let bases := fetchLinkBases (deepLinkBases unicode grafanaUrl tracesUrl)
    (resolve bases spec range = none ↔
      ¬ Returns (baseUrl unicode grafanaUrl) ∨ ¬ Returns (baseUrl unicode tracesUrl) ∨
        (baseUrl unicode grafanaUrl = .ok none ∧
          (spec.dashboard = .traces → baseUrl unicode tracesUrl = .ok none))) ∧
    ∀ href, resolve bases spec range = some href → ∃ base parts,
      LinkLaw unicode grafanaUrl tracesUrl spec range href base parts :=
  ⟨resolve_eq_none_iff unicode grafanaUrl tracesUrl spec range,
    linkLaw_of_resolve unicode grafanaUrl tracesUrl spec range⟩

/-- Every rendered link follows the law of a listed one. -/
theorem renderLinkSet_law (grafanaUrl tracesUrl : Option Text) (listed : List LinkSpec)
    (range : Text) :
    ∀ href ∈ renderLinkSet (fetchLinkBases (deepLinkBases unicode grafanaUrl tracesUrl)) listed range,
      ∃ spec ∈ listed, ∃ base parts,
        LinkLaw unicode grafanaUrl tracesUrl spec range href base parts := by
  intro href member
  obtain ⟨spec, inside, found⟩ := List.mem_filterMap.mp member
  exact ⟨spec, inside, linkLaw_of_resolve unicode grafanaUrl tracesUrl spec range href found⟩

/-- With a Grafana base every listed link is drawn. -/
theorem renderLinkSet_length (grafanaUrl tracesUrl : Option Text) (base : Text)
    (one : baseUrl unicode grafanaUrl = .ok (some base)) (other : Returns (baseUrl unicode tracesUrl))
    (listed : List LinkSpec) (range : Text) :
    (renderLinkSet (fetchLinkBases (deepLinkBases unicode grafanaUrl tracesUrl)) listed range).length =
      listed.length := by
  have each (spec : LinkSpec) :
      (resolve (fetchLinkBases (deepLinkBases unicode grafanaUrl tracesUrl)) spec range).isSome := by
    rw [Option.isSome_iff_ne_none, ne_eq, resolve_eq_none_iff]
    intro absent
    rcases absent with raised | raised | missing
    · exact raised ⟨_, one⟩
    · exact raised other
    · rw [one] at missing
      cases missing.1
  unfold renderLinkSet
  induction listed with
  | nil => rfl
  | cons spec later ih =>
      obtain ⟨href, found⟩ := Option.isSome_iff_exists.mp (each spec)
      rw [List.filterMap_cons, found]
      dsimp only
      rw [List.length_cons, ih, List.length_cons]

/-- The links of a queue's drawer tell Grafana the queue, its dead-letter queue or its pipeline. -/
theorem queueLinks_read (grafanaUrl tracesUrl : Option Text)
    (pipeline queue deadLetterQueue range : Text) :
    ∀ href ∈ renderLinkSet (fetchLinkBases (deepLinkBases unicode grafanaUrl tracesUrl))
      (specs.queue pipeline queue deadLetterQueue) range,
    ∃ base, baseUrl unicode grafanaUrl = .ok (some base) ∧
      ('?' ∉ base → '#' ∉ base → ∃ read, urlsplit unicode href = .ok read ∧
        parseQsl read.query ∈ [linkQuery [("queue".toList, queue)] range,
          linkQuery [("queue".toList, deadLetterQueue)] range,
          linkQuery [("source".toList, pipeline)] range]) := by
  intro href member
  obtain ⟨spec, listed, base, parts, law⟩ :=
    renderLinkSet_law unicode grafanaUrl tracesUrl _ range href member
  have kind : spec.dashboard ≠ .traces ∧ spec.vars ∈ [[("queue".toList, queue)],
      [("queue".toList, deadLetterQueue)], [("source".toList, pipeline)]] := by
    simp only [specs.queue, List.mem_append, List.mem_singleton] at listed
    rcases listed with (same | inside) | same
    · rw [same]
      exact ⟨by simp, by simp⟩
    · split at inside
      · cases inside
      · rw [List.mem_singleton.mp inside]
        exact ⟨by simp, by simp⟩
    · rw [same]
      exact ⟨by simp, by simp⟩
  refine ⟨base, law.served.resolve_right fun traces => kind.1 traces.1, fun question hash => ?_⟩
  obtain ⟨read, same, _, _, query⟩ := law.dashboard question hash
  refine ⟨read, same, ?_⟩
  rw [query]
  exact List.mem_map_of_mem (f := fun vars => linkQuery vars range) kind.2

end Law

end OperationsConsole.Browser.DeepLinks
