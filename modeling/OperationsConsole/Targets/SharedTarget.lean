/-
This file compares the requests that the console builds from one setting.
A probe joins its path to the base without the white space around it, and a read appends its route
to the text of the setting.
-/

import OperationsConsole.Redaction.ScrubbedSecrets
import OperationsConsole.Redaction.TwoReadings
import OperationsConsole.Targets.UrlJoin

namespace OperationsConsole.Targets

open Library Redaction

/-- These settings name a target that is probed and read. -/
inductive Setting where
  | rabbitmq
  | victoriaMetrics
  | grafana
  deriving DecidableEq

def strip (text : Text) : Text := (text.dropWhile isSpace).rdropWhile isSpace

def rabbitmqPrometheusUrl (setting : Text) : Text := rstripSlashes setting

def victoriaMetricsUrl (setting : Text) : Text := rstripSlashes setting

def envUrl (setting : Text) : Option Text :=
  let url := rstripSlashes (strip setting)
  if url = [] then none else some url

def alertsPath : Text := "/api/alertmanager/grafana/api/v2/alerts".toList

namespace Setting

def probePath : Setting → Text
  | rabbitmq => "/metrics/detailed?family=node_coarse_metrics".toList
  | victoriaMetrics => "/health".toList
  | grafana => "/api/health".toList

/-- The routes that are read from a target. -/
def routes : Setting → List Text
  | rabbitmq => ["/metrics/detailed".toList]
  | victoriaMetrics => ["/api/v1/query_range".toList, "/api/v1/query".toList]
  | grafana => [alertsPath]

/-- A read appends its route to the text of the setting, and only that of Grafana strips the white
space around it. -/
def readUrl : Setting → Text → Text → Option Text
  | rabbitmq, setting, route => some (rabbitmqPrometheusUrl setting ++ route)
  | victoriaMetrics, setting, route => some (victoriaMetricsUrl setting ++ route)
  | grafana, setting, route => (envUrl setting).map (· ++ route)

end Setting

/-- The parameters of a request are added to the query of its URL, or they replace it. -/
inductive ParamMode where
  | added
  | replaced

/-- What a request asks for. -/
structure Target where
  scheme : Text
  netloc : Text
  path : Text
  parameters : List Text
  deriving DecidableEq

/-- The parameters that a query lists. -/
def parametersOf (query : Text) : List Text := (query.splitOn '&').filter fun field => field ≠ []

/-- A URL has neither a blank nor a control character. -/
def isUrl (text : Text) : Bool := text.all fun symbol => !isSpace symbol && !isControl symbol

/-- A request for a URL has parameters of its own, or it has none. Another text has no target. -/
def requestTarget (unicode : Unicode) (mode : ParamMode) (url : Text)
    (params : Option (List Text)) : Option Target := do
  guard (isUrl url = true)
  let parts ← (urlsplit unicode url).toOption
  let parameters := match params, mode with
    | none, _ => parametersOf parts.query
    | some own, .added => parametersOf parts.query ++ own
    | some own, .replaced => own
  return ⟨parts.scheme, parts.netloc, parts.path, parameters⟩

/-- The target of a route under a base keeps the parameters of the base. -/
def targetUnder (base : SplitResult) (route : Text) (own : List Text) : Target where
  scheme := base.scheme
  netloc := base.netloc
  path := rstripSlashes base.path ++ route
  parameters := parametersOf base.query ++ own

section Law

variable (unicode : Unicode) (setting : Setting) (text : Text) (parts : SplitResult)

/-- The probe strips the text of a setting, and it accepts a base that is read as these parts. -/
structure AcceptedBase : Prop where
  read : urlsplit unicode (strip text) = .ok parts
  probed : ∃ target, probeTarget unicode (strip text) setting.probePath = .ok (some target)

/-- Every request from a setting has one meaning under its base. -/
structure SharedTarget : Prop where
  probed : ∃ target, probeTarget unicode (strip text) setting.probePath = .ok (some target) ∧
    ∀ mode, requestTarget unicode mode target none =
      some (targetUnder parts (before (· == '?') setting.probePath)
        (parametersOf (afterFirst (· == '?') setting.probePath)))
  read : ∀ route ∈ setting.routes, ∃ url, setting.readUrl text route = some url ∧
    ∀ mode own, requestTarget unicode mode url (some own) = some (targetUnder parts route own)

end Law

section Parameters

/-- Joined queries list the parameters of both. -/
theorem parametersOf_joined (first second : Text) :
    parametersOf (joinQueries [first, second]) = parametersOf first ++ parametersOf second := by
  unfold joinQueries
  by_cases left : first = []
  · by_cases right : second = []
    · rw [left, right]
      rfl
    · rw [left, List.filter_cons_of_neg (by simp), List.filter_cons_of_pos (by simp [right])]
      rw [List.filter_nil, List.intercalate_singleton]
      rfl
  · by_cases right : second = []
    · rw [right, List.filter_cons_of_pos (by simp [left]), List.filter_cons_of_neg (by simp)]
      rw [List.filter_nil, List.intercalate_singleton]
      exact (List.append_nil _).symm
    · rw [List.filter_cons_of_pos (by simp [left]), List.filter_cons_of_pos (by simp [right]),
        List.filter_nil, List.intercalate_cons_cons, List.intercalate_singleton]
      unfold parametersOf
      rw [List.append_assoc, List.singleton_append,
        List.splitOn_append_cons_of_beq first second (beq_self_eq_true '&'), List.filter_append]

theorem joinQueries_subset (first second : Text) (symbol : Char)
    (member : symbol ∈ joinQueries [first, second]) :
    symbol ∈ first ∨ symbol ∈ second ∨ symbol = '&' := by
  unfold joinQueries at member
  by_cases left : first = [] <;> by_cases right : second = [] <;>
    simp [left, right, List.intercalate_cons_cons] at member <;> tauto

end Parameters

section Routes

/-- A route is a path of its own. -/
structure IsRoute (route : Text) : Prop where
  rooted : route.head? = some '/'
  single : ¬ ['/', '/'] <+: route
  clear : '?' ∉ route ∧ '#' ∉ route
  named : ∃ symbol ∈ route, symbol ≠ '/'
  clean : Clean route

theorem isUrl_iff (text : Text) : isUrl text = true ↔ Clean text := by
  unfold isUrl Clean
  rw [List.all_eq_true]
  simp only [Bool.and_eq_true, Bool.not_eq_eq_eq_not, Bool.not_true]

theorem clean_of_all (text : Text) (all : isUrl text = true) : Clean text := (isUrl_iff text).mp all

theorem probePath_route (setting : Setting) : IsRoute (before (· == '?') setting.probePath) := by
  cases setting <;>
    exact ⟨by decide +kernel, by decide +kernel, by decide +kernel, ⟨'e', by decide +kernel⟩,
      clean_of_all _ (by decide +kernel)⟩

/-- The query of a probe is clean and has no fragment. -/
theorem probePath_query (setting : Setting) : '#' ∉ afterFirst (· == '?') setting.probePath ∧
    Clean (afterFirst (· == '?') setting.probePath) := by
  cases setting <;> exact ⟨by decide +kernel, clean_of_all _ (by decide +kernel)⟩

theorem isRoute_of_routes (setting : Setting) (route : Text) (listed : route ∈ setting.routes) :
    IsRoute route := by
  cases setting <;> simp only [Setting.routes, List.mem_cons, List.not_mem_nil, or_false] at listed
  · rw [listed]
    exact ⟨by decide +kernel, by decide +kernel, by decide +kernel, ⟨'e', by decide +kernel⟩,
      clean_of_all _ (by decide +kernel)⟩
  · rcases listed with same | same <;> rw [same] <;>
      exact ⟨by decide +kernel, by decide +kernel, by decide +kernel, ⟨'e', by decide +kernel⟩,
        clean_of_all _ (by decide +kernel)⟩
  · rw [listed]
    exact ⟨by decide +kernel, by decide +kernel, by decide +kernel, ⟨'e', by decide +kernel⟩,
      clean_of_all _ (by decide +kernel)⟩

/-- A path without its last slashes begins with a slash once a route follows it. -/
theorem rooted_append (path route : Text) (isRoute : IsRoute route)
    (rooted : path = [] ∨ ∃ rest, path = '/' :: rest) :
    (rstripSlashes path ++ route).head? = some '/' := by
  cases stripped : rstripSlashes path with
  | nil => exact isRoute.rooted
  | cons symbol rest =>
      obtain ⟨tail, whole⟩ := rstripSlashes_start path
      rw [stripped] at whole
      rcases rooted with empty | ⟨others, starts⟩
      · rw [empty] at whole
        simp at whole
      · rw [starts, List.cons_append, List.cons.injEq] at whole
        rw [whole.1]
        rfl

/-- A text that does not begin with two slashes does not gain them from a route. -/
theorem single_append (text route : Text) (isRoute : IsRoute route)
    (single : ¬ ['/', '/'] <+: text) : ¬ ['/', '/'] <+: rstripSlashes text ++ route := by
  intro slashes
  have inside := rstripSlashes_start text
  match stripped : rstripSlashes text with
  | [] =>
      rw [stripped] at slashes
      exact isRoute.single slashes
  | [symbol] =>
      have last := List.rdropWhile_last_not (· == '/') text (by
        change rstripSlashes text ≠ []
        simp [stripped])
      change ¬ ((rstripSlashes text).getLast _ == '/') = true at last
      simp only [stripped, List.getLast_singleton] at last
      rw [stripped, List.singleton_append, List.cons_prefix_cons] at slashes
      exact last (by simp [← slashes.1])
  | first :: second :: rest =>
      apply single
      rw [stripped] at slashes inside
      have front : ['/', '/'] <+: first :: second :: rest := by
        simpa using slashes
      exact front.trans inside

/-- The slashes after a location are stripped from the rest of the text. -/
theorem rstripSlashes_located (text netloc rest : Text) (filled : netloc ≠ [])
    (free : '/' ∉ netloc) :
    rstripSlashes (text ++ netloc ++ rest) = text ++ netloc ++ rstripSlashes rest := by
  have last := List.dropLast_append_getLast filled
  have differs : netloc.getLast filled ≠ '/' := by
    intro same
    exact free (same ▸ List.getLast_mem filled)
  have kept := rstripSlashes_keep (text ++ netloc.dropLast) rest (netloc.getLast filled) differs
  rw [← last]
  simpa using kept

/-- Without a query and a fragment, a route is appended to the path behind a location. -/
theorem splitNetloc_stripped (url route : Text) (isRoute : IsRoute route)
    (clear : '?' ∉ url ∧ '#' ∉ url) : splitNetloc (rstripSlashes url ++ route) =
      ((splitNetloc url).1, rstripSlashes (splitNetloc url).2 ++ route) := by
  by_cases slashes : ['/', '/'] <+: url
  · obtain ⟨tail, whole⟩ := slashes
    subst whole
    have rooted : fromFirst isDelimiter tail = [] ∨
        ∃ rest, fromFirst isDelimiter tail = '/' :: rest := by
      rcases fromFirst_cases isDelimiter tail with empty | ⟨symbol, rest, starts, delimiter⟩
      · exact .inl empty
      · refine .inr ⟨rest, ?_⟩
        have member : symbol ∈ tail := fromFirst_subset isDelimiter tail (by rw [starts]; simp)
        simp only [List.cons_append, List.nil_append, List.mem_cons, not_or] at clear
        unfold isDelimiter at delimiter
        rw [Bool.or_eq_true, Bool.or_eq_true, beq_iff_eq, beq_iff_eq, beq_iff_eq] at delimiter
        rcases delimiter with (slash | query) | fragment
        · rw [starts, slash]
        · exact absurd (query ▸ member) clear.1.2.2
        · exact absurd (fragment ▸ member) clear.2.2.2
    have read : splitNetloc (['/', '/'] ++ tail) =
        (before isDelimiter tail, fromFirst isDelimiter tail) := by
      unfold splitNetloc
      rw [if_pos (List.prefix_append _ _)]
      rfl
    have cut := before_append_fromFirst isDelimiter tail
    have free : ∀ symbol ∈ before isDelimiter tail, isDelimiter symbol = false :=
      before_free isDelimiter tail
    have follows : ∃ symbol rest,
        rstripSlashes (fromFirst isDelimiter tail) ++ route = symbol :: rest ∧
          isDelimiter symbol = true := by
      have head := rooted_append (fromFirst isDelimiter tail) route isRoute rooted
      cases whole : rstripSlashes (fromFirst isDelimiter tail) ++ route with
      | nil =>
          rw [whole] at head
          simp at head
      | cons symbol rest =>
          rw [whole, List.head?_cons, Option.some.injEq] at head
          exact ⟨symbol, rest, rfl, by rw [head]; rfl⟩
    rw [read]
    by_cases bare : before isDelimiter tail = []
    · rw [bare, List.nil_append] at cut
      rw [bare]
      by_cases other : ∃ symbol ∈ tail, symbol ≠ '/'
      · rw [rstripSlashes_append ['/', '/'] tail other, cut]
        rw [cut] at follows
        exact splitNetloc_slashes [] (rstripSlashes tail ++ route) (by simp) (.inr follows)
      · have all : ∀ symbol ∈ tail, symbol = '/' := by
          intro symbol member
          by_contra differs
          exact other ⟨symbol, member, differs⟩
        have every : ∀ symbol ∈ ['/', '/'] ++ tail, symbol = '/' := by
          intro symbol member
          rcases List.mem_append.mp member with front | inside
          · simpa using front
          · exact all symbol inside
        rw [cut, rstripSlashes_slashes _ every, rstripSlashes_slashes _ all, List.nil_append]
        exact splitNetloc_plain route isRoute.single
    · have noSlash : '/' ∉ before isDelimiter tail := by
        intro member
        exact absurd (free '/' member) (by decide)
      have stripped := rstripSlashes_located ['/', '/'] (before isDelimiter tail)
        (fromFirst isDelimiter tail) bare noSlash
      rw [List.append_assoc, cut] at stripped
      rw [stripped]
      have split := splitNetloc_slashes (before isDelimiter tail)
        (rstripSlashes (fromFirst isDelimiter tail) ++ route) free (.inr follows)
      simpa using split
  · rw [splitNetloc_plain url slashes,
      splitNetloc_plain _ (single_append url route isRoute slashes)]

/-- A mark in a text keeps what follows the text out of its location and its path. -/
theorem path_of_marked (scheme text rest : Text)
    (held : ∃ symbol ∈ text, (symbol == '#' || symbol == '?') = true) :
    (splitNetloc (text ++ rest)).1 = (splitNetloc text).1 ∧
      (splitRest scheme (splitNetloc text).1 (splitNetloc (text ++ rest)).2).path =
        (splitRest scheme (splitNetloc text).1 (splitNetloc text).2).path := by
  change _ ∧ before (· == '?') (before (· == '#') (splitNetloc (text ++ rest)).2) =
    before (· == '?') (before (· == '#') (splitNetloc text).2)
  obtain ⟨symbol, member, mark⟩ := held
  have noSlash : symbol ≠ '/' := by
    intro same
    rw [same] at mark
    exact absurd mark (by decide)
  rw [path_eq, path_eq]
  by_cases slashes : ['/', '/'] <+: text
  · obtain ⟨tail, whole⟩ := slashes
    subst whole
    have inside : symbol ∈ tail := by
      rcases List.mem_append.mp member with front | inside
      · exact absurd (by simpa using front) noSlash
      · exact inside
    have delimiter : isDelimiter symbol = true := by
      unfold isDelimiter
      simp only [Bool.or_eq_true, beq_iff_eq] at mark ⊢
      tauto
    have split := before_append_of_stop isDelimiter tail rest ⟨symbol, inside, delimiter⟩
    have later : symbol ∈ fromFirst isDelimiter tail := by
      have cut := before_append_fromFirst isDelimiter tail
      rw [← cut] at inside
      rcases List.mem_append.mp inside with early | late
      · have clear := before_free isDelimiter tail symbol early
        rw [delimiter] at clear
        exact absurd clear (by decide)
      · exact late
    unfold splitNetloc
    rw [if_pos (List.prefix_append _ _), if_pos (by simp)]
    dsimp only [List.cons_append, List.nil_append, List.drop]
    rw [split.1, split.2]
    exact ⟨rfl, (before_append_of_stop _ _ rest ⟨symbol, later, mark⟩).1⟩
  · have still : ¬ ['/', '/'] <+: text ++ rest := by
      intro starts
      match text with
      | [] => exact absurd member List.not_mem_nil
      | [only] =>
          rw [List.mem_singleton] at member
          rw [List.singleton_append, List.cons_prefix_cons] at starts
          exact noSlash (member.trans starts.1.symm)
      | first :: second :: others =>
          apply slashes
          simpa using starts
    rw [splitNetloc_plain _ slashes, splitNetloc_plain _ still]
    exact ⟨rfl, (before_append_of_stop _ _ rest ⟨symbol, member, mark⟩).1⟩

end Routes

section Accepted

variable (unicode : Unicode) (setting : Setting) (text : Text) (parts : SplitResult)

/-- An accepted base is not ambiguous, and it has one of two schemes. -/
theorem accepted_web (accepted : AcceptedBase unicode setting text parts) :
    isAmbiguous unicode (strip text) = false ∧ parts.scheme ∈ ["http".toList, "https".toList] := by
  obtain ⟨target, probed⟩ := accepted.probed
  unfold probeTarget at probed
  cases clear : isAmbiguous unicode (strip text) with
  | true =>
      rw [clear] at probed
      simp [pure, Except.pure] at probed
  | false =>
      refine ⟨rfl, ?_⟩
      by_contra other
      rw [clear, accepted.read] at probed
      simp only [Bool.false_eq_true, if_false, bind, Except.bind, if_neg other, pure, Except.pure,
        Except.ok.injEq, reduceCtorEq] at probed

/-- The probe of an accepted base asks for the joined parts. -/
theorem probeTarget_accepted (accepted : AcceptedBase unicode setting text parts) :
    probeTarget unicode (strip text) setting.probePath =
      .ok (some (urlunsplit (joinedParts parts setting.probePath))) := by
  have web := accepted_web unicode setting text parts accepted
  have filled : setting.probePath ≠ [] := by
    cases setting <;> decide
  unfold probeTarget joinProbePath
  rw [web.1, accepted.read]
  simp only [Bool.false_eq_true, if_false, bind, Except.bind, if_pos web.2, if_neg filled]
  rfl

/-- An accepted base is a scheme and a located rest. -/
theorem accepted_located (accepted : AcceptedBase unicode setting text parts) :
    Clean (strip text) ∧ ∃ name url, Located unicode (strip text) name url parts := by
  have web := accepted_web unicode setting text parts accepted
  have clean := clean_of_clear unicode (strip text) web.1
  refine ⟨clean, located_of_read unicode (strip text) clean parts accepted.read ?_⟩
  intro empty
  have schemes := web.2
  rw [empty] at schemes
  exact absurd schemes (by decide)

variable (lowers : ∀ text : Text, (∀ symbol ∈ text, symbol.isLower = true) →
  unicode.lower text = text)

include lowers

theorem restorable_joined (accepted : AcceptedBase unicode setting text parts) :
    Restorable unicode (joinedParts parts setting.probePath) := by
  have web := accepted_web unicode setting text parts accepted
  obtain ⟨clean, name, url, located⟩ := accepted_located unicode setting text parts accepted
  have route := probePath_route setting
  have query := probePath_query setting
  have inside : url ⊆ strip text := by
    rw [located.whole]
    exact List.subset_append_of_subset_right name (List.subset_cons_self ':' url)
  have within := splitNetloc_subset url
  have pieces := splitRest_subset (unicode.lower name) (splitNetloc url).1 (splitNetloc url).2
  have free := path_free (unicode.lower name) (splitNetloc url).1 (splitNetloc url).2
  have netlocEq : parts.netloc = (splitNetloc url).1 := by
    rw [located.built]
    rfl
  rw [← located.built] at pieces free
  have schemes : ∀ scheme ∈ ["http".toList, "https".toList], isScheme scheme = true ∧
      scheme ∈ usesNetloc ∧ scheme.all Char.isLower = true ∧
        isUrl scheme = true := by
    decide +kernel
  have scheme := schemes parts.scheme web.2
  have joined : Clean (joinQueries [parts.query, afterFirst (· == '?') setting.probePath]) := by
    intro symbol member
    rcases joinQueries_subset _ _ symbol member with first | second | sign
    · exact clean symbol (inside (within.2 (pieces.2.1 first)))
    · exact query.2 symbol second
    · rw [sign]
      decide
  constructor
  · exact scheme.1
  · exact lowers parts.scheme (List.all_eq_true.mp scheme.2.2.1)
  · exact scheme.2.1
  · change ∀ symbol ∈ parts.netloc, isDelimiter symbol = false
    rw [netlocEq]
    exact splitNetloc_free url
  · change checkBrackets unicode parts.netloc = .ok ()
    rw [netlocEq]
    exact located.brackets
  · change checkNetloc unicode parts.netloc = .ok ()
    rw [netlocEq]
    exact located.normal
  · intro empty
    obtain ⟨symbol, member, _⟩ := route.named
    rw [(List.append_eq_nil_iff.mp empty).2] at member
    exact absurd member List.not_mem_nil
  · intro filled
    apply rooted_append _ _ route
    have rooted := path_rooted (unicode.lower name) url (netlocEq ▸ filled)
    rw [← located.built] at rooted
    exact rooted
  · change '?' ∉ rstripSlashes parts.path ++ _ ∧ '#' ∉ rstripSlashes parts.path ++ _
    rw [List.mem_append, List.mem_append, not_or, not_or]
    have stripped := (rstripSlashes_start parts.path).subset
    exact ⟨⟨fun member => free.1 (stripped member), route.clear.1⟩,
      ⟨fun member => free.2.1 (stripped member), route.clear.2⟩⟩
  · intro member
    rcases joinQueries_subset _ _ '#' member with first | second | sign
    · exact free.2.2 first
    · exact query.1 second
    · exact absurd sign (by decide)
  · refine ⟨clean_of_all _ scheme.2.2.2, ?_, ?_, joined, ?_⟩
    · change Clean parts.netloc
      rw [netlocEq]
      exact clean_subset clean (List.Subset.trans within.1 inside)
    · change Clean (rstripSlashes parts.path ++ _)
      rw [clean_append]
      refine ⟨clean_subset clean ?_, route.clean⟩
      exact List.Subset.trans (rstripSlashes_start parts.path).subset
        (List.Subset.trans pieces.1 (List.Subset.trans within.2 inside))
    · exact clean_subset clean (List.Subset.trans pieces.2.2 (List.Subset.trans within.2 inside))

/-- The probe asks for its route under every accepted base. -/
theorem probe_target (accepted : AcceptedBase unicode setting text parts) :
    ∃ target, probeTarget unicode (strip text) setting.probePath = .ok (some target) ∧
      ∀ mode, requestTarget unicode mode target none =
        some (targetUnder parts (before (· == '?') setting.probePath)
          (parametersOf (afterFirst (· == '?') setting.probePath))) := by
  refine ⟨_, probeTarget_accepted unicode setting text parts accepted, ?_⟩
  intro mode
  have restorable := restorable_joined unicode setting text parts lowers accepted
  have restored := urlsplit_urlunsplit unicode _ restorable
  have clean := (isUrl_iff _).mpr (clean_of_urlunsplit unicode _ restorable)
  have listed := parametersOf_joined parts.query (afterFirst (· == '?') setting.probePath)
  unfold requestTarget
  rw [restored, clean]
  simp only [guard, if_true, Except.toOption, bind, Option.bind, pure, joinedParts, targetUnder,
    listed]

omit lowers in
/-- A clean text has nothing to strip. -/
theorem strip_clean (given : Text) (clean : Clean given) : strip given = given := by
  have unspaced : ∀ given : Text, Clean given → given.dropWhile isSpace = given := by
    intro given clean
    cases given with
    | nil => rfl
    | cons symbol rest =>
        apply List.dropWhile_cons_of_neg
        rw [(clean symbol List.mem_cons_self).1]
        decide
  unfold strip List.rdropWhile
  rw [unspaced given clean, unspaced given.reverse, List.reverse_reverse]
  intro symbol member
  exact clean symbol (List.mem_reverse.mp member)

omit lowers in
/-- A read appends its route to the text without its last slashes, where the text has no white space
around it or the read strips it. -/
theorem readUrl_accepted (accepted : AcceptedBase unicode setting text parts)
    (stripped : setting = .grafana ∨ strip text = text) (route : Text) :
    setting.readUrl text route = some (rstripSlashes (strip text) ++ route) := by
  obtain ⟨clean, name, url, located⟩ := accepted_located unicode setting text parts accepted
  have filled : rstripSlashes (strip text) ≠ [] := by
    rw [located.whole, rstripSlashes_keep name url ':' (by decide)]
    simp
  cases setting with
  | rabbitmq =>
      rw [stripped.resolve_left (by decide)]
      rfl
  | victoriaMetrics =>
      rw [stripped.resolve_left (by decide)]
      rfl
  | grafana =>
      change (envUrl text).map (· ++ route) = _
      unfold envUrl
      dsimp only
      rw [if_neg filled]
      rfl

omit lowers in
/-- A read that asks for a URL has no white space around its text, or it strips it. -/
theorem strip_of_isUrl (route url : Text) (given : setting.readUrl text route = some url)
    (clean : isUrl url = true) : setting = .grafana ∨ strip text = text := by
  have whole : ∀ rest, rstripSlashes text ++ rest = url → strip text = text := by
    intro rest same
    rw [← same, isUrl_iff, clean_append] at clean
    obtain ⟨slashes, split, all⟩ := rstripSlashes_rest text
    apply strip_clean
    rw [split, clean_append]
    refine ⟨clean.1, ?_⟩
    intro symbol member
    rw [all symbol member]
    decide
  cases setting with
  | rabbitmq => exact .inr (whole route (Option.some.inj given))
  | victoriaMetrics => exact .inr (whole route (Option.some.inj given))
  | grafana => exact .inl rfl

omit lowers in
/-- A text of an accepted base with a route is read at the location of the base. -/
theorem urlsplit_read (name url route : Text) (clean : Clean (strip text))
    (located : Located unicode (strip text) name url parts) (isRoute : IsRoute route)
    (same : (splitNetloc (rstripSlashes url ++ route)).1 = (splitNetloc url).1) :
    urlsplit unicode (rstripSlashes (strip text) ++ route) = .ok (splitRest (unicode.lower name)
      (splitNetloc url).1 (splitNetloc (rstripSlashes url ++ route)).2) := by
  have kept := rstripSlashes_keep name url ':' (by decide)
  have whole : rstripSlashes (strip text) ++ route = name ++ ':' :: (rstripSlashes url ++ route) := by
    rw [located.whole, kept, List.append_assoc, List.cons_append]
  have cleanWhole : Clean (name ++ ':' :: (rstripSlashes url ++ route)) := by
    rw [← whole, clean_append]
    exact ⟨clean_subset clean (rstripSlashes_start (strip text)).subset, isRoute.clean⟩
  rw [whole, urlsplit_named unicode name _ cleanWhole located.named, same]
  · rw [same]
    exact located.brackets
  · rw [same]
    exact located.normal

end Accepted

section Exact

variable (unicode : Unicode) (setting : Setting) (text : Text) (parts : SplitResult)
  (accepted : AcceptedBase unicode setting text parts)

include accepted

/-- Without a query and a fragment, a read asks for its route under the base. -/
theorem read_target (clear : '?' ∉ strip text ∧ '#' ∉ strip text) (route : Text) (isRoute : IsRoute route)
    (mode : ParamMode) (own : List Text) :
    requestTarget unicode mode (rstripSlashes (strip text) ++ route) (some own) =
      some (targetUnder parts route own) := by
  obtain ⟨clean, name, url, located⟩ := accepted_located unicode setting text parts accepted
  have inside : ∀ symbol ∈ url, symbol ∈ strip text := by
    intro symbol member
    rw [located.whole]
    exact List.mem_append_right name (List.mem_cons_of_mem ':' member)
  have plain : '?' ∉ url ∧ '#' ∉ url :=
    ⟨fun member => clear.1 (inside _ member), fun member => clear.2 (inside _ member)⟩
  have stripped := splitNetloc_stripped url route isRoute plain
  have read := urlsplit_read unicode text parts name url route clean located isRoute
    (by rw [stripped])
  rw [stripped] at read
  have rest := (splitNetloc_subset url).2
  have restClear : '?' ∉ (splitNetloc url).2 ∧ '#' ∉ (splitNetloc url).2 :=
    ⟨fun member => plain.1 (rest member), fun member => plain.2 (rest member)⟩
  have inner := splitRest_marked (unicode.lower name) (splitNetloc url).1 (splitNetloc url).2 [] []
    restClear.1 restClear.2 List.not_mem_nil
  have longer : '?' ∉ rstripSlashes (splitNetloc url).2 ++ route ∧
      '#' ∉ rstripSlashes (splitNetloc url).2 ++ route := by
    have front := (rstripSlashes_start (splitNetloc url).2).subset
    rw [List.mem_append, List.mem_append, not_or, not_or]
    exact ⟨⟨fun member => restClear.1 (front member), isRoute.clear.1⟩,
      ⟨fun member => restClear.2 (front member), isRoute.clear.2⟩⟩
  have outer := splitRest_marked (unicode.lower name) (splitNetloc url).1
    (rstripSlashes (splitNetloc url).2 ++ route) [] [] longer.1 longer.2 List.not_mem_nil
  simp only [marked, if_true, List.append_nil] at inner outer
  rw [outer] at read
  have built := located.built
  rw [inner] at built
  have asked : isUrl (rstripSlashes (strip text) ++ route) = true := by
    rw [isUrl_iff, clean_append]
    exact ⟨clean_subset clean (rstripSlashes_start (strip text)).subset, isRoute.clean⟩
  unfold requestTarget
  rw [read, built, asked]
  cases mode <;> rfl

/-- With a query or a fragment, a read keeps the path of the base. -/
theorem read_path (held : '?' ∈ strip text ∨ '#' ∈ strip text) (route : Text) (isRoute : IsRoute route) :
    ∃ read, urlsplit unicode (rstripSlashes (strip text) ++ route) = .ok read ∧
      read.path = parts.path := by
  obtain ⟨clean, name, url, located⟩ := accepted_located unicode setting text parts accepted
  obtain ⟨slashes, whole, all⟩ := rstripSlashes_rest url
  have mark : ∃ symbol ∈ rstripSlashes url, (symbol == '#' || symbol == '?') = true := by
    have inUrl : ∀ symbol ∈ strip text, isSchemeChar symbol = false → symbol ≠ ':' → symbol ≠ '/' →
        symbol ∈ rstripSlashes url := by
      intro symbol member unnamed noColon noSlash
      rw [located.whole, List.mem_append, List.mem_cons] at member
      rcases member with front | colon | inside
      · have named := located.named
        unfold isScheme at named
        rw [Bool.and_eq_true, List.all_eq_true] at named
        rw [named.2 symbol front] at unnamed
        exact absurd unnamed (by decide)
      · exact absurd colon noColon
      · rw [whole, List.mem_append] at inside
        rcases inside with kept | slash
        · exact kept
        · exact absurd (all symbol slash) noSlash
    rcases held with query | fragment
    · exact ⟨'?', inUrl '?' query (by decide) (by decide) (by decide), rfl⟩
    · exact ⟨'#', inUrl '#' fragment (by decide) (by decide) (by decide), rfl⟩
  have own := path_of_marked (unicode.lower name) (rstripSlashes url) slashes mark
  have other := path_of_marked (unicode.lower name) (rstripSlashes url) route mark
  rw [← whole] at own
  have read := urlsplit_read unicode text parts name url route clean located isRoute
    (other.1.trans own.1.symm)
  refine ⟨_, read, ?_⟩
  rw [located.built, own.1, other.2, own.2]

omit accepted in
/-- A path never ends with a route that follows the whole path. -/
theorem path_ne_append (path route : Text) (isRoute : IsRoute route) :
    path ≠ rstripSlashes path ++ route := by
  intro same
  obtain ⟨slashes, whole, all⟩ := rstripSlashes_rest path
  have tails := List.append_cancel_left (whole.symm.trans same)
  obtain ⟨symbol, member, differs⟩ := isRoute.named
  exact differs (all symbol (tails ▸ member))

/-- Every request from a setting has one meaning exactly when its base has no query and no
fragment, and the setting has no white space around it or strips it for its reads. -/
theorem sharedTarget_iff (lowers : ∀ text : Text, (∀ symbol ∈ text, symbol.isLower = true) →
      unicode.lower text = text) :
    SharedTarget unicode setting text parts ↔
      ('?' ∉ strip text ∧ '#' ∉ strip text) ∧ (setting = .grafana ∨ strip text = text) := by
  constructor
  · intro shared
    obtain ⟨route, listed⟩ : ∃ route, route ∈ setting.routes := by
      cases setting with
      | rabbitmq => exact ⟨_, List.mem_cons_self⟩
      | victoriaMetrics => exact ⟨_, List.mem_cons_self⟩
      | grafana => exact ⟨_, List.mem_cons_self⟩
    have isRoute := isRoute_of_routes setting route listed
    obtain ⟨url, given, asks⟩ := shared.read route listed
    have target := asks .added []
    unfold requestTarget at target
    cases clean : isUrl url with
    | false =>
        rw [clean] at target
        exact absurd target (by simp)
    | true =>
        have stripped := strip_of_isUrl setting text route url given clean
        refine ⟨?_, stripped⟩
        by_contra held
        have marked : '?' ∈ strip text ∨ '#' ∈ strip text := by tauto
        rw [readUrl_accepted unicode setting text parts accepted stripped route,
          Option.some.injEq] at given
        obtain ⟨read, split, path⟩ :=
          read_path unicode setting text parts accepted marked route isRoute
        rw [clean, ← given, split] at target
        have paths : read.path = rstripSlashes parts.path ++ route :=
          congrArg Target.path (Option.some.inj target)
        exact path_ne_append parts.path route isRoute (path.symm.trans paths)
  · rintro ⟨clear, stripped⟩
    constructor
    · exact probe_target unicode setting text parts lowers accepted
    · intro route listed
      refine ⟨_, readUrl_accepted unicode setting text parts accepted stripped route, ?_⟩
      exact read_target unicode setting text parts accepted clear route
        (isRoute_of_routes setting route listed)

end Exact

/-- A base with a slash at its end is one target for its probe and its reads. -/
theorem sharedTarget_iff_slash : SharedTarget asciiInterpreter.toUnicode .rabbitmq
      "http://u:p@h/rmq/".toList ⟨"http".toList, "u:p@h".toList, "/rmq/".toList, [], []⟩ ↔
    ('?' ∉ strip "http://u:p@h/rmq/".toList ∧ '#' ∉ strip "http://u:p@h/rmq/".toList) ∧
      (Setting.rabbitmq = .grafana ∨
        strip "http://u:p@h/rmq/".toList = "http://u:p@h/rmq/".toList) := by
  apply sharedTarget_iff
  · constructor
    · decide +kernel
    · exact ⟨"http://u:p@h/rmq/metrics/detailed?family=node_coarse_metrics".toList,
        by decide +kernel⟩
  · intro text lower
    have same : ∀ symbol ∈ text, symbol.toLower = symbol := by
      intro symbol member
      have letter := lower symbol member
      unfold Char.toLower
      rw [dif_neg]
      intro upper
      change (decide ('a'.val ≤ symbol.val) && decide (symbol.val ≤ 'z'.val)) = true at letter
      rw [Bool.and_eq_true, decide_eq_true_eq, decide_eq_true_eq] at letter
      exact absurd (UInt32.le_trans letter.1 upper.2) (by decide)
    exact (List.map_congr_left same).trans (List.map_id text)

/-- A base with a query takes the route of a read into its query. -/
theorem sharedTarget_fails : AcceptedBase asciiInterpreter.toUnicode .rabbitmq
      "http://u:p@h/rmq?token=x".toList
      ⟨"http".toList, "u:p@h".toList, "/rmq".toList, "token=x".toList, []⟩ ∧
    ¬ SharedTarget asciiInterpreter.toUnicode .rabbitmq "http://u:p@h/rmq?token=x".toList
      ⟨"http".toList, "u:p@h".toList, "/rmq".toList, "token=x".toList, []⟩ := by
  constructor
  · constructor
    · decide +kernel
    · exact ⟨"http://u:p@h/rmq/metrics/detailed?token=x&family=node_coarse_metrics".toList,
        by decide +kernel⟩
  · intro shared
    obtain ⟨url, given, asks⟩ := shared.read _ List.mem_cons_self
    rw [← Option.some.inj given] at asks
    exact absurd (asks .added []) (by decide +kernel)

end OperationsConsole.Targets
