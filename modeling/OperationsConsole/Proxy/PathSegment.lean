/-
This file embeds the guard on the path parameters that the admin proxy forwards to catalog-api.
It decides for which values the guard keeps the target of a request.
-/

import OperationsConsole.Browser.DeadLetterNames
import OperationsConsole.Library.Ascii
import OperationsConsole.Library.DotSegments
import OperationsConsole.Redaction.UrlRedaction

namespace OperationsConsole.Proxy

open Library
open Browser (isSafePathChar matchesSafePathSegment matchesSafePathSegment_iff validatePathSegment
  adminDlqPurgePath)
open Redaction (Text isSpace isControl)

/-- A path template of the catalog-api contract has fixed segments and named parameters. -/
inductive Segment where
  | fixed (text : String)
  | parameter (name : String)
  deriving DecidableEq

def Segment.fill (values : String → String) : Segment → Text
  | fixed text => text.toList
  | parameter name => (values name).toList

def Segment.name? : Segment → Option String
  | fixed _ => none
  | parameter name => some name

/-- A route checks its parameters in the order of its template, and each has its own refusal. -/
structure ParameterRoute where
  template : List Segment
  refusal : String → String

def ParameterRoute.parameters (route : ParameterRoute) : List String :=
  route.template.filterMap Segment.name?

def invalidDetail (name : String) : String := "\x7b\"detail\":\"Invalid " ++ name ++ "\"\x7d"

/-- Every parameter of the contract is refused under its own name. -/
def refusal (name : String) : String :=
  match name with
  | "extraction_id" => invalidDetail "extraction ID"
  | "queue" => invalidDetail "queue name"
  | "work_id" => invalidDetail "work ID"
  | "record_id" => invalidDetail "record ID"
  | name => invalidDetail name

def adminPath (rest : List Segment) : ParameterRoute where
  template := [.fixed "api", .fixed "admin"] ++ rest
  refusal := refusal

def adminDlqPurge : ParameterRoute :=
  adminPath [.fixed "dlq", .fixed "purge", .parameter "queue"]

def adminExtraction : ParameterRoute :=
  adminPath [.fixed "extractions", .parameter "extraction_id"]

def adminIdentityLedgerWork : ParameterRoute :=
  adminPath [.fixed "identity", .fixed "ledger", .fixed "works", .parameter "work_id"]

def adminExtractionAnalysis (rest : List Segment) : ParameterRoute :=
  adminPath ([.fixed "extraction-analysis", .parameter "version"] ++ rest)

def adminExtractionAnalysisSummary : ParameterRoute :=
  adminExtractionAnalysis [.fixed "summary"]

def adminExtractionAnalysisViolation : ParameterRoute :=
  adminExtractionAnalysis [.fixed "violations", .parameter "record_id"]

def adminExtractionAnalysisViolations : ParameterRoute :=
  adminExtractionAnalysis [.fixed "violations"]

def adminExtractionAnalysisSkipped : ParameterRoute :=
  adminExtractionAnalysis [.fixed "skipped"]

def adminExtractionAnalysisParsingErrors : ParameterRoute :=
  adminExtractionAnalysis [.fixed "parsing-errors"]

def adminExtractionAnalysisCompare : ParameterRoute :=
  adminExtractionAnalysis [.fixed "compare", .parameter "other_version"]

def adminExtractionAnalysisPromptContext : ParameterRoute :=
  adminExtractionAnalysis [.fixed "prompt-context"]

def adminExtractionAnalysisGenerateAiPrompt : ParameterRoute :=
  adminExtractionAnalysis [.fixed "generate-ai-prompt"]

/-- These are the templates of the contract that have a parameter. -/
def parameterRoutes : List ParameterRoute :=
  [adminDlqPurge, adminExtraction, adminIdentityLedgerWork, adminExtractionAnalysisSummary,
    adminExtractionAnalysisViolation, adminExtractionAnalysisViolations,
    adminExtractionAnalysisSkipped, adminExtractionAnalysisParsingErrors,
    adminExtractionAnalysisCompare, adminExtractionAnalysisPromptContext,
    adminExtractionAnalysisGenerateAiPrompt]

def ParameterRoute.format (route : ParameterRoute) (values : String → String) : Text :=
  pathOf (route.template.map (Segment.fill values))

/-- The proxy answers 400 for the first parameter that it refuses, or it forwards the path. -/
def ParameterRoute.forward (route : ParameterRoute) (values : String → String) :
    Except String Text :=
  match route.parameters.find? fun name => !validatePathSegment (values name) with
  | some name => .error (route.refusal name)
  | none => .ok (route.format values)

/-- A segment is not empty, it has only allowed characters, and it is not made of dots. -/
structure IsSegment (value : String) : Prop where
  present : value ≠ ""
  safe : ∀ char ∈ value.toList, isSafePathChar char = true
  named : value ≠ "." ∧ value ≠ ".."

/-- A forwarded path is its template with one segment for each parameter. -/
structure KeepsTarget (route : ParameterRoute) (values : String → String) (path : Text) :
    Prop where
  segments : path.splitOn '/' = [] :: route.template.map (Segment.fill values)
  clean : ∀ char ∈ path, char ∉ ['?', '#', '%'] ∧ isSpace char = false ∧ isControl char = false
  kept : removeDotSegments path = path

/-- The guard accepts the segments, and an accepted one keeps the target of every route. -/
structure SegmentLaw (value : String) : Prop where
  accepts : validatePathSegment value = true ↔ IsSegment value
  keeps : validatePathSegment value = true → ∀ route ∈ parameterRoutes,
    ∀ name ∈ route.parameters, ∀ values : String → String, values name = value →
      (∀ other, other ≠ name → IsSegment (values other)) →
        ∃ path, route.forward values = .ok path ∧ KeepsTarget route values path

/-- One newline follows the allowed characters. -/
def EndsInNewline (value : String) : Prop :=
  ∃ line : String, line ≠ "" ∧ (∀ char ∈ line.toList, isSafePathChar char = true) ∧
    value = line ++ "\n"

/-- An allowed character has no meaning in a URL, and it is neither blank nor a control. -/
theorem safe_clean (char : Char) (safe : isSafePathChar char = true) :
    char ≠ '/' ∧ char ∉ ['?', '#', '%'] ∧ isSpace char = false ∧ isControl char = false := by
  have codes : 45 ≤ char.toNat ∧ char.toNat ≤ 122 ∧ char.toNat ≠ 47 ∧ char.toNat ≠ 63 := by
    simp only [isSafePathChar, isAlphanum_iff, Bool.or_eq_true, decide_eq_true_eq] at safe
    rcases safe with ((((range | range) | range) | same) | same) | same
    · omega
    · omega
    · omega
    · rw [same]
      decide
    · rw [same]
      decide
    · rw [same]
      decide
  refine ⟨?_, ?_, ?_, ?_⟩
  · rintro rfl
    exact codes.2.2.1 rfl
  · intro sign
    simp only [List.mem_cons, List.not_mem_nil, or_false] at sign
    rcases sign with rfl | rfl | rfl <;> revert codes <;> decide
  · simp only [isSpace, Bool.or_eq_false_iff, Bool.and_eq_false_iff, decide_eq_false_iff_not,
      beq_eq_false_iff_ne]
    omega
  · simp only [isControl, Bool.or_eq_false_iff, decide_eq_false_iff_not, beq_eq_false_iff_ne]
    omega

section Values

variable (value : String)

/-- The guard decides exactly for the values that do not end in a newline. -/
theorem validatePathSegment_iff_isSegment (line : value.toList.getLast? ≠ some '\n') :
    validatePathSegment value = true ↔ IsSegment value := by
  by_cases present : value.toList = []
  · have empty : value = "" := String.toList_eq_nil_iff.mp present
    rw [empty]
    exact iff_of_false (by decide) fun segment => segment.present rfl
  · unfold validatePathSegment
    by_cases dots : value = "." ∨ value = ".."
    · rw [if_pos dots]
      refine iff_of_false Bool.false_ne_true fun segment => ?_
      rcases dots with dot | dot
      · exact segment.named.1 dot
      · exact segment.named.2 dot
    · rw [if_neg dots, matchesSafePathSegment_iff value.toList present line]
      constructor
      · intro safe
        exact ⟨fun empty => present (by rw [empty]; rfl), safe, not_or.mp dots⟩
      · intro segment
        exact segment.safe

/-- A segment does not end in a newline. -/
theorem IsSegment.line (segment : IsSegment value) : value.toList.getLast? ≠ some '\n' := by
  intro last
  exact absurd (segment.safe '\n' (List.mem_of_getLast? last)) (by decide)

theorem IsSegment.accepted (segment : IsSegment value) : validatePathSegment value = true :=
  (validatePathSegment_iff_isSegment value (segment.line value)).mpr segment

theorem IsSegment.plain (segment : IsSegment value) : Plain value.toList where
  whole member := (safe_clean '/' (segment.safe '/' member)).1 rfl
  named := by
    constructor
    · intro dot
      exact segment.named.1 (String.toList_inj.mp dot)
    · intro dots
      exact segment.named.2 (String.toList_inj.mp dots)

/-- The guard also accepts the allowed characters with one newline after them. -/
theorem accepted_of_newline (newline : EndsInNewline value) :
    validatePathSegment value = true ∧ ¬IsSegment value := by
  obtain ⟨line, present, safe, rfl⟩ := newline
  have characters : (line ++ "\n").toList = line.toList ++ ['\n'] := String.toList_append
  have last : (line ++ "\n").toList.getLast? = some '\n' := by
    rw [characters, List.getLast?_concat]
  constructor
  · have noDots : ¬(line ++ "\n" = "." ∨ line ++ "\n" = "..") := by
      rintro (same | same) <;> rw [same] at last <;> revert last <;> decide
    have full : line.toList ≠ [] := fun empty => present (String.toList_eq_nil_iff.mp empty)
    unfold validatePathSegment matchesSafePathSegment
    rw [if_neg noDots, if_pos last, characters, List.dropLast_concat]
    simp only [Bool.and_eq_true, Bool.not_eq_true', List.isEmpty_eq_false_iff, List.all_eq_true]
    exact ⟨full, safe⟩
  · intro segment
    exact segment.line _ last

/-- A value that ends in a newline is accepted only for the characters before it. -/
theorem newline_of_accepted (last : value.toList.getLast? = some '\n')
    (accepted : validatePathSegment value = true) : EndsInNewline value := by
  unfold validatePathSegment at accepted
  split at accepted
  · cases accepted
  · unfold matchesSafePathSegment at accepted
    rw [if_pos last] at accepted
    simp only [Bool.and_eq_true, Bool.not_eq_true', List.isEmpty_eq_false_iff, List.all_eq_true]
      at accepted
    obtain ⟨present, safe⟩ := accepted
    refine ⟨String.ofList value.toList.dropLast, ?_, ?_, ?_⟩
    · intro empty
      apply present
      rw [← String.toList_ofList (l := value.toList.dropLast), empty]
      rfl
    · rw [String.toList_ofList]
      exact safe
    · apply String.toList_inj.mp
      rw [String.toList_append, String.toList_ofList]
      exact (List.dropLast_append_getLast? '\n' last).symm

end Values

/-- The fixed segments of the contract are segments too. -/
theorem fixed_isSegment (route : ParameterRoute) (listed : route ∈ parameterRoutes)
    (text : String) (member : Segment.fixed text ∈ route.template) : IsSegment text := by
  have checked : (parameterRoutes.all fun route => route.template.all fun segment =>
      match segment with
      | .fixed text => validatePathSegment text && text.toList.getLast? != some '\n'
      | .parameter _ => true) = true := by
    decide
  have own := List.all_eq_true.mp (List.all_eq_true.mp checked route listed) _ member
  rw [Bool.and_eq_true, bne_iff_ne] at own
  exact (validatePathSegment_iff_isSegment text own.2).mp own.1

section Routes

variable (route : ParameterRoute) (listed : route ∈ parameterRoutes) (values : String → String)

include listed

/-- A route fills its template with segments when its parameters are segments. -/
theorem fill_isSegment (segments : ∀ name, IsSegment (values name)) (segment : Segment)
    (member : segment ∈ route.template) :
    ∃ text : String, segment.fill values = text.toList ∧ IsSegment text := by
  cases segment with
  | fixed text => exact ⟨text, rfl, fixed_isSegment route listed text member⟩
  | parameter name => exact ⟨values name, rfl, segments name⟩

/-- A route forwards its template when its parameters are segments. -/
theorem forward_keepsTarget (segments : ∀ name, IsSegment (values name)) :
    ∃ path, route.forward values = .ok path ∧ KeepsTarget route values path := by
  have filled := fill_isSegment route listed values segments
  have accepted : (route.parameters.find? fun name => !validatePathSegment (values name)) =
      none := by
    rw [List.find?_eq_none]
    intro name _
    rw [(segments name).accepted]
    decide
  refine ⟨route.format values, ?_, ?_, ?_, ?_⟩
  · rw [ParameterRoute.forward, accepted]
  · rw [ParameterRoute.format, pathOf_eq_intercalate]
    apply List.splitOn_intercalate
    · intro text member
      rcases List.mem_cons.mp member with empty | inside
      · rw [empty]
        exact List.not_mem_nil
      · obtain ⟨segment, listing, rfl⟩ := List.mem_map.mp inside
        obtain ⟨text, same, plain⟩ := filled segment listing
        rw [same]
        exact plain.plain.whole
    · exact List.cons_ne_nil _ _
  · intro char member
    obtain ⟨text, inside, held⟩ := List.mem_flatMap.mp member
    obtain ⟨segment, listing, rfl⟩ := List.mem_map.mp inside
    obtain ⟨text, same, plain⟩ := filled segment listing
    rcases List.mem_cons.mp held with slash | own
    · rw [slash]
      decide
    · rw [same] at own
      exact (safe_clean char (plain.safe char own)).2
  · apply removeDotSegments_pathOf
    intro text inside
    obtain ⟨segment, listing, rfl⟩ := List.mem_map.mp inside
    obtain ⟨text, same, plain⟩ := filled segment listing
    rw [same]
    exact plain.plain

end Routes

/-- The guard keeps the law for exactly the values that are not the allowed characters with one
newline after them. -/
theorem segmentLaw_iff (value : String) : SegmentLaw value ↔ ¬EndsInNewline value := by
  constructor
  · intro law newline
    obtain ⟨accepted, refused⟩ := accepted_of_newline value newline
    exact refused (law.accepts.mp accepted)
  · intro plain
    have accepts : validatePathSegment value = true ↔ IsSegment value := by
      by_cases last : value.toList.getLast? = some '\n'
      · refine iff_of_false (fun accepted => plain (newline_of_accepted value last accepted)) ?_
        exact fun segment => segment.line value last
      · exact validatePathSegment_iff_isSegment value last
    refine ⟨accepts, ?_⟩
    intro accepted route listed name _ values own others
    apply forward_keepsTarget route listed values
    intro other
    by_cases same : other = name
    · rw [same, own]
      exact accepts.mp accepted
    · exact others other same

/-- The guard accepts a name with a newline after it. -/
theorem segmentLaw_fails : ¬SegmentLaw "20240101.0\n" := by
  intro law
  obtain ⟨accepted, refused⟩ := accepted_of_newline "20240101.0\n"
    ⟨"20240101.0", by decide, List.all_eq_true.mp (by decide), rfl⟩
  exact refused (law.accepts.mp accepted)

end OperationsConsole.Proxy
