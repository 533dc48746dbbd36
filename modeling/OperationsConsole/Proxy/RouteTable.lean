/-
This file proves that at most one route of the admin proxy answers a request, and that the path of a
request is the template of its route with the captured values.
-/

import OperationsConsole.Proxy.Routes

namespace OperationsConsole.Proxy

open Library
open Library.Routing
open Redaction (Text)

section Exclusion

/-- A route is told by its method and its path. -/
def Route.shape (route : Route) : String × List Segment := (route.method, route.below)

def Segment.oneLine : Segment → Bool
  | fixed text => !text.toList.contains '\n'
  | parameter _ => true

theorem Segment.newline_free (segment : Segment) (part : Piece String) (text : String)
    (line : segment.oneLine = true) (made : segment.part = part) (fixed : part = .fixed text) :
    '\n' ∉ text.toList := by
  cases segment with
  | parameter name => cases made.trans fixed
  | fixed literal =>
      injection made.trans fixed with same
      rw [oneLine, same, Bool.not_eq_true', ← Bool.not_eq_true, List.contains_iff_mem] at line
      exact line

/-- Two routes are apart in their templates or in their methods. -/
def ShapesApart (first second : String × List Segment) : Prop :=
  apart (first.2.map Segment.part) (second.2.map Segment.part) = true ∨ first.1 ≠ second.1

variable (digit : Char → Bool)

/-- No two routes answer one path with one method. -/
theorem shapes_apart : ((routes digit).map Route.shape).Pairwise ShapesApart := by
  simp only [routes, Route.shape, List.map_cons, List.map_nil, analysisPath, List.cons_append,
    List.nil_append, proxyLoginRoute, proxyLogoutRoute, proxyListExtractions, proxyGetExtraction,
    proxyTriggerRoute, proxyTriggerMusicbrainzRoute, proxyUserStats, proxySyncActivity, proxyStorage,
    proxyDlqPurge, proxyAuditLog, proxyIdentityLedgerWorks, proxyIdentityLedgerWork,
    proxyIdentityLedgerDensity, proxyEaVersions, proxyEaSummary, proxyEaViolationDetail,
    proxyEaSkipped, proxyEaViolations, proxyEaParsingErrors, proxyEaCompare, proxyEaPromptContext,
    proxyEaGenerateAiPrompt, proxyEaMediaMappingCoverage]
  simp only [ShapesApart, apart, Piece.apart, Segment.part, List.pairwise_cons, List.forall_mem_cons,
    List.map_cons, List.map_nil, List.not_mem_nil, false_implies, implies_true, and_true,
    decide_true, Bool.true_or, true_or, Bool.false_or, decide_false, ne_eq, not_false_eq_true,
    or_true, String.reduceEq, not_true_eq_false, Bool.or_self, Bool.false_eq_true,
    List.Pairwise.nil]

/-- No segment of a route has a line break. -/
theorem below_oneLine : ∀ route ∈ routes digit, OneLine (route.below.map Segment.part) := by
  have every : ∀ route ∈ routes digit, route.below.all Segment.oneLine = true := by
    simp only [routes, List.forall_mem_cons]
    exact ⟨rfl, rfl, rfl, rfl, rfl, rfl, rfl, rfl, rfl, rfl, rfl, rfl, rfl, rfl, rfl, rfl, rfl, rfl, rfl,
      rfl, rfl, rfl, rfl, rfl, fun _ absent => absurd absent List.not_mem_nil⟩
  intro route member part inside text same
  obtain ⟨segment, listed, equal⟩ := List.mem_map.mp inside
  have holds := List.all_eq_true.mp (every route member) segment listed
  exact segment.newline_free part text holds equal same

/-- These are the parts before the path of every route. -/
def consoleRoot : List Segment := [.fixed "", .fixed "admin", .fixed "api"]

theorem template_eq (route : Route) :
    route.template = consoleRoot.map Segment.part ++ route.below.map Segment.part := rfl

theorem template_oneLine : ∀ route ∈ routes digit, OneLine route.template := by
  intro route member part inside text same
  rw [template_eq] at inside
  rcases List.mem_append.mp inside with root | below
  · have free : ∀ segment ∈ consoleRoot, segment.oneLine = true := by decide
    obtain ⟨segment, listed, equal⟩ := List.mem_map.mp root
    exact segment.newline_free part text (free segment listed) equal same
  · exact below_oneLine digit route member part below text same

theorem apart_append (shared first second : List (Piece String))
    (differ : apart first second = true) : apart (shared ++ first) (shared ++ second) = true := by
  induction shared with
  | nil => exact differ
  | cons part rest ih =>
      rw [List.cons_append, List.cons_append, apart, ih, Bool.or_true]

/-- A route answers its own method on the paths of its template. -/
theorem answers_eq_some_iff (inbound : Inbound) (route : Route)
    (found : Route × List (String × Text)) :
    route.answers inbound = some found ↔ inbound.method = route.method ∧ found.1 = route ∧
      captureLine route.template (inbound.path.splitOn '/') = some found.2 := by
  unfold Route.answers
  rw [Option.ite_none_right_eq_some, Option.map_eq_some_iff]
  constructor
  · intro holds
    obtain ⟨method, values, captured, same⟩ := holds
    rw [← same]
    exact ⟨method, rfl, captured⟩
  · intro holds
    obtain ⟨method, same, captured⟩ := holds
    exact ⟨method, found.2, captured, by rw [← same]⟩

/-- No two routes of the table answer the same request. -/
theorem routes_exclusive (inbound : Inbound) :
    Exclusive (Route.answers inbound) (routes digit) := by
  have shapes := List.pairwise_map.mp (shapes_apart digit)
  refine (List.Pairwise.and_mem.mp shapes).imp fun {first second} known => ?_
  obtain ⟨member, otherMember, differ⟩ := known
  by_contra both
  rw [not_or] at both
  obtain ⟨found, answered⟩ := Option.ne_none_iff_exists'.mp both.1
  obtain ⟨other, otherAnswered⟩ := Option.ne_none_iff_exists'.mp both.2
  obtain ⟨method, _, captured⟩ := (answers_eq_some_iff inbound first found).mp answered
  obtain ⟨otherMethod, _, otherCaptured⟩ :=
    (answers_eq_some_iff inbound second other).mp otherAnswered
  have same := apart_eq_false first.template second.template _ (template_oneLine digit first member)
    (template_oneLine digit second otherMember) (fits_of_captureLine _ _ _ captured)
    (fits_of_captureLine _ _ _ otherCaptured)
  rcases differ with templates | methods
  · have apart : apart first.template second.template = true :=
      apart_append (consoleRoot.map Segment.part) (first.below.map Segment.part)
        (second.below.map Segment.part) templates
    exact Bool.false_ne_true (same.symm.trans apart)
  · exact methods (method.symm.trans otherMethod)

/-- The route of a request does not depend on the order in which the routes are registered. -/
theorem routes_anyOrder (inbound : Inbound) (reordered : List Route)
    (perm : reordered.Perm (routes digit)) :
    reordered.findSome? (Route.answers inbound) = route? digit inbound :=
  findSome?_perm (Route.answers inbound) (routes digit) reordered perm
    (routes_exclusive digit inbound)

/-- The table in the reverse order, for the purge of a queue. -/
theorem routes_anyOrder_reverse :
    (routes Char.isDigit).reverse.findSome? (Route.answers
        { method := "POST", headers := [], cookies := Dict.empty, query := [], body := []
          path := "/admin/api/dlq/purge/groovemap-discogs-graphinator-artists.dlq".toList }) =
      route? Char.isDigit
        { method := "POST", headers := [], cookies := Dict.empty, query := [], body := []
          path := "/admin/api/dlq/purge/groovemap-discogs-graphinator-artists.dlq".toList } :=
  routes_anyOrder Char.isDigit _ _ (List.reverse_perm _)

end Exclusion

section Paths

theorem name?_part (segment : Segment) : segment.part.name? = segment.name? := by
  cases segment <;> rfl

/-- A filled segment is the filled part. -/
theorem fill_part (values : List (String × Text)) (segment : Segment) :
    segment.part.fill (valueOf values) =
      segment.fill fun name => String.ofList (valueOf values name) := by
  cases segment with
  | fixed text => rfl
  | parameter name => exact String.toList_ofList.symm

/-- No route repeats the name of a parameter. -/
theorem names_nodup (digit : Char → Bool) :
    ∀ route ∈ routes digit, (route.below.filterMap Segment.name?).Nodup := by
  have two (first second : String) (differ : first ≠ second) : [first, second].Nodup := by
    simpa using differ
  simp only [routes, List.forall_mem_cons]
  refine ⟨.nil, .nil, .nil, List.nodup_singleton _, .nil, .nil, .nil, .nil, .nil,
    List.nodup_singleton _, .nil, .nil, List.nodup_singleton _, .nil, .nil, List.nodup_singleton _,
    two _ _ ?_, List.nodup_singleton _, List.nodup_singleton _, List.nodup_singleton _, two _ _ ?_,
    List.nodup_singleton _, List.nodup_singleton _, List.nodup_singleton _,
    fun _ absent => absurd absent List.not_mem_nil⟩
  · decide
  · decide

/-- These are the segments of the path, up to one newline at its end. -/
def PathParts (inbound : Inbound) (parts : List Text) : Prop :=
  inbound.path.splitOn '/' = parts ∨ chomp (inbound.path.splitOn '/') = some parts

/-- The path of a request is the template of its route with the captured values. -/
theorem pathParts_of_answers (digit : Char → Bool) (inbound : Inbound) (route : Route)
    (member : route ∈ routes digit) (found : Route × List (String × Text))
    (answered : route.answers inbound = some found) :
    PathParts inbound ((consoleRoot ++ route.below).map
      (Segment.fill fun name => String.ofList (valueOf found.2 name))) := by
  obtain ⟨_, _, captured⟩ := (answers_eq_some_iff inbound route found).mp answered
  have distinct : (route.template.filterMap Piece.name?).Nodup := by
    have same : route.template.filterMap Piece.name? = route.below.filterMap Segment.name? := by
      rw [template_eq, ← List.map_append, List.filterMap_map]
      exact List.filterMap_congr fun segment _ => name?_part segment
    exact same ▸ names_nodup digit route member
  have filled : ∀ parts, capture route.template parts = some found.2 →
      (consoleRoot ++ route.below).map
        (Segment.fill fun name => String.ofList (valueOf found.2 name)) = parts := by
    intro parts exact_capture
    rw [← fill_of_capture route.template parts found.2 exact_capture distinct, template_eq,
      ← List.map_append, List.map_map]
    exact List.map_congr_left fun segment _ => (fill_part found.2 segment).symm
  unfold captureLine at captured
  cases whole : capture route.template (inbound.path.splitOn '/') with
  | some values =>
      rw [whole, Option.orElse_some] at captured
      exact .inl (filled _ (whole.trans captured)).symm
  | none =>
      rw [whole, Option.orElse_none] at captured
      obtain ⟨shorter, chomped, kept⟩ := Option.bind_eq_some_iff.mp captured
      exact .inr (chomped.trans (congrArg some (filled shorter kept).symm))

end Paths

end OperationsConsole.Proxy
