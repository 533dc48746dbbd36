/-
This file proves what a composed media mapping coverage says. Its numbers come from one answer for the
provider that the summary of the version names.
-/

import OperationsConsole.Proxy.Mirror
import OperationsConsole.Redaction.ScrubbedSecrets

namespace OperationsConsole.Proxy

open Library
open Library.Asking (Run)
open Redaction (Text)
open Session (ProxyCall ProxyResponse)

section Composition

/-- A row keeps the fields of the entry that it ranks. -/
structure Ranks (entry : Json) (row : UnmappedFormat) : Prop where
  isDict : entry.isDict = true
  kind : row.kind = entry.field "kind" .null
  name : row.name = entry.field "name" .null
  count : row.count = entry.field "releases" (.int 0)

/-- The rows are the entries in their order, and nothing but the context is the summary's. -/
structure Composes (summary coverage : Json) (body : Coverage) : Prop where
  version : body.version = summary.field "version" .null
  source : body.source = summary.field "source" .null
  provider : body.provider = coverage.field "provider" .null
  tagged : body.mediaTaggedReleases = coverage.field "media_tagged_releases" (.int 0)
  unmapped : body.releasesWithUnmappedMedia = coverage.field "releases_with_unmapped" (.int 0)
  rate : body.unmappedRate = coverage.field "unmapped_rate" (.float (.finite 0))
  limit : body.limit = coverage.field "limit" (.int mediaMappingTopN)
  rows : ∃ entries, ((coverage.field "top_unmapped" .null).orElse (.list [])).iterate = .ok entries ∧
    List.Forall₂ Ranks entries body.topUnmappedFormats
  truncated : body.truncated = true ↔ ∃ bound, intOf? body.limit = some bound ∧
    bound ≤ body.topUnmappedFormats.length

theorem ranks_of_unmappedFormat (entry : Json) (row : UnmappedFormat)
    (made : unmappedFormat entry = .ok row) : Ranks entry row := by
  obtain ⟨kind, hasKind, made⟩ := (bind_eq_ok_iff _ _ _).mp made
  obtain ⟨name, hasName, made⟩ := (bind_eq_ok_iff _ _ _).mp made
  obtain ⟨count, hasCount, made⟩ := (bind_eq_ok_iff _ _ _).mp made
  rw [Json.get_eq_ok_iff] at hasKind hasName hasCount
  rw [← Except.ok.inj made]
  exact ⟨hasKind.1, hasKind.2.symm, hasName.2.symm, hasCount.2.symm⟩

/-- A composed body has the fields of both answers. -/
theorem composes_of_compose (summary coverage : Json) (body : Coverage)
    (made : composeMediaMappingCoverage summary coverage = .ok body) :
    Composes summary coverage body := by
  obtain ⟨top, hasTop, made⟩ := (bind_eq_ok_iff _ _ _).mp made
  obtain ⟨limit, hasLimit, made⟩ := (bind_eq_ok_iff _ _ _).mp made
  obtain ⟨version, hasVersion, made⟩ := (bind_eq_ok_iff _ _ _).mp made
  obtain ⟨source, hasSource, made⟩ := (bind_eq_ok_iff _ _ _).mp made
  obtain ⟨provider, hasProvider, made⟩ := (bind_eq_ok_iff _ _ _).mp made
  obtain ⟨tagged, hasTagged, made⟩ := (bind_eq_ok_iff _ _ _).mp made
  obtain ⟨unmapped, hasUnmapped, made⟩ := (bind_eq_ok_iff _ _ _).mp made
  obtain ⟨rate, hasRate, made⟩ := (bind_eq_ok_iff _ _ _).mp made
  obtain ⟨entries, iterated, made⟩ := (bind_eq_ok_iff _ _ _).mp made
  obtain ⟨formats, ranked, made⟩ := (bind_eq_ok_iff _ _ _).mp made
  rw [Json.get_eq_ok_iff] at hasTop hasLimit hasVersion hasSource hasProvider hasTagged hasUnmapped hasRate
  have rows := ((mapM_eq_ok_iff unmappedFormat entries formats).mp ranked).imp
    fun {entry row} => ranks_of_unmappedFormat entry row
  rw [← Except.ok.inj made]
  refine ⟨hasVersion.2.symm, hasSource.2.symm, hasProvider.2.symm, hasTagged.2.symm,
    hasUnmapped.2.symm, hasRate.2.symm, hasLimit.2.symm, ⟨entries, ?_, rows⟩, ?_⟩
  · rw [hasTop.2]
    exact iterated
  · dsimp only
    rw [Option.any_eq_true, rows.length_eq]
    simp only [decide_eq_true_eq]

end Composition

section Reading

variable (server : Server) (values : String → String)
variable (log : List (ProxyCall × ProxyResponse)) (content : Json)

theorem providerOf_eq_some (source : Json) (provider : String)
    (known : providerOf source = .ok (some provider)) :
    provider ∈ mediaMappingProviders ∧ source = .text (literal provider) := by
  unfold providerOf at known
  cases hashed : source.hash with
  | error error => rw [hashed] at known; cases known
  | ok label =>
      rw [hashed] at known
      have found := Except.ok.inj known
      refine ⟨List.mem_of_find?_eq_some found, ?_⟩
      have same := List.find?_some found
      cases source with
      | text symbols => exact congrArg Json.text (of_decide_eq_true same)
      | _ => cases same

theorem providerOf_eq_none (source : Json) (unknown : providerOf source = .ok none) :
    ∀ provider ∈ mediaMappingProviders, source ≠ .text (literal provider) := by
  unfold providerOf at unknown
  cases hashed : source.hash with
  | error error => rw [hashed] at unknown; cases unknown
  | ok label =>
      rw [hashed] at unknown
      intro provider member same
      have differs := List.find?_eq_none.mp (Except.ok.inj unknown) provider member
      rw [same] at differs
      exact differs (decide_eq_true rfl)

/-- A good answer of catalog-api with a body that reads as a value. -/
structure GoodAnswer (response : ProxyResponse) (body : Json) : Prop where
  status : response.status = 200
  reads : server.readJson response.content = .ok body

/-- The first answer is the summary of the version. The coverage of a known provider is read from a
second answer, and that of any other source is reported as not available without one. -/
inductive Reads : Prop
  | available (path : Text) (version : adminExtractionAnalysisSummary.forward values = .ok path)
      (summary coverage : Json) (first second : ProxyResponse) (provider : String) (body : Coverage)
      (asked : log = [({ method := "GET", apiPath := String.ofList path }, first),
        (coverageCall provider, second)])
      (summarised : GoodAnswer server first summary) (covered : GoodAnswer server second coverage)
      (known : provider ∈ mediaMappingProviders)
      (named : summary.field "source" .null = .text (literal provider))
      (composes : Composes summary coverage body) (made : content = body.json)
  | unavailable (path : Text) (version : adminExtractionAnalysisSummary.forward values = .ok path)
      (summary : Json) (first : ProxyResponse)
      (asked : log = [({ method := "GET", apiPath := String.ofList path }, first)])
      (summarised : GoodAnswer server first summary)
      (unknown : ∀ provider ∈ mediaMappingProviders,
        summary.field "source" .null ≠ .text (literal provider))
      (made : content = mediaMappingUnavailable server.reprJson (literal (values "version"))
        (summary.field "source" .null))

theorem composed_of_run (body : Json) (run : Run (composed body) log (.composed content)) :
    log = [] ∧ content = body := by
  rcases (Asking.run_attempt_iff _ _ _ _ _).mp run with encoded | raised
  · obtain ⟨_, _, rest⟩ := encoded
    obtain ⟨none_asked, ended⟩ := (Asking.run_done_iff _ _ _).mp rest
    exact ⟨none_asked, Outcome.composed.inj ended⟩
  · obtain ⟨error, _, _, ended⟩ := raised
    cases ended

/-- A computation that may raise an exception has returned if something is composed. -/
theorem returned_of_run {α : Type} (attempted : Except Raised α) (next : α → Plan)
    (run : Run (Asking.attempt attempted .raises next) log (.composed content)) :
    ∃ found, attempted = .ok found ∧ Run (next found) log (.composed content) := by
  rcases (Asking.run_attempt_iff _ _ _ _ _).mp run with returned | raised
  · exact returned
  · obtain ⟨error, _, _, ended⟩ := raised
    cases ended

/-- Only a good answer is read. -/
theorem good_of_run (response : ProxyResponse) (next : Plan)
    (run : Run (if response.status ≠ 200 then .done (.relayed response) else next) log
      (.composed content)) : response.status = 200 ∧ Run next log (.composed content) := by
  split at run
  · obtain ⟨_, ended⟩ := (Asking.run_done_iff _ _ _).mp run
    cases ended
  · rename_i status
    exact ⟨not_not.mp status, run⟩

/-- Everything that a composed coverage says comes from the answers that were asked for it. -/
theorem proxyCoverage_reads (run : Run (proxyCoverage server values) log (.composed content)) :
    Reads server values log content := by
  unfold proxyCoverage withTarget at run
  split at run
  · obtain ⟨_, ended⟩ := (Asking.run_done_iff _ _ _).mp run
    cases ended
  · rename_i path version
    obtain ⟨first, later, same, rest⟩ := (Asking.run_ask_iff _ _ _ _).mp run
    obtain ⟨good, rest⟩ := good_of_run _ _ first _ rest
    obtain ⟨summary, read, rest⟩ := returned_of_run _ _ _ _ rest
    obtain ⟨source, named, rest⟩ := returned_of_run _ _ _ _ rest
    obtain ⟨known, hashed, rest⟩ := returned_of_run _ _ _ _ rest
    have field := ((Json.get_eq_ok_iff _ _ _ _).mp named).2
    cases known with
    | none =>
        obtain ⟨none_asked, made⟩ := composed_of_run _ _ _ rest
        rw [none_asked] at same
        rw [← field] at hashed made
        exact .unavailable path version summary first same ⟨good, read⟩
          (providerOf_eq_none _ hashed) made
    | some provider =>
        obtain ⟨listed, text⟩ := providerOf_eq_some source provider hashed
        obtain ⟨second, others, asked, rest⟩ := (Asking.run_ask_iff _ _ _ _).mp rest
        obtain ⟨covered, rest⟩ := good_of_run _ _ second _ rest
        obtain ⟨coverage, readCoverage, rest⟩ := returned_of_run _ _ _ _ rest
        obtain ⟨body, composes, rest⟩ := returned_of_run _ _ _ _ rest
        obtain ⟨none_asked, made⟩ := composed_of_run _ _ _ rest
        rw [asked, none_asked] at same
        exact .available path version summary coverage first second provider body same ⟨good, read⟩
          ⟨covered, readCoverage⟩ listed (field.trans text)
          (composes_of_compose summary coverage body composes) made

end Reading

section Examples

def summaryBody : List UInt8 :=
  utf8 "\x7b\x22version\x22: \x2220240101.0\x22, \x22source\x22: \x22discogs\x22\x7d"

def coverageBody : List UInt8 :=
  utf8 ("\x7b\x22provider\x22: \x22discogs\x22, \x22media_tagged_releases\x22: 40, " ++
    "\x22releases_with_unmapped\x22: 10, \x22unmapped_rate\x22: 0.25, \x22limit\x22: 2, " ++
    "\x22top_unmapped\x22: [\x7b\x22kind\x22: \x22format\x22, \x22name\x22: \x22Shellac\x22, " ++
    "\x22releases\x22: 2\x7d, \x7b\x22kind\x22: \x22description\x22, \x22name\x22: \x22Lathe\x22, " ++
    "\x22releases\x22: 1\x7d]\x7d")

/-- The value of the text of a summary. -/
def summaryValue : Json :=
  .dict [(literal "version", .text (literal "20240101.0")),
    (literal "source", .text (literal "discogs"))]

def unmappedEntry (kind name : String) (releases : ℤ) : Json :=
  .dict [(literal "kind", .text (literal kind)), (literal "name", .text (literal name)),
    (literal "releases", .int releases)]

/-- The value of the text of a coverage with two names. -/
def coverageValue : Json :=
  .dict [(literal "provider", .text (literal "discogs")),
    (literal "media_tagged_releases", .int 40), (literal "releases_with_unmapped", .int 10),
    (literal "unmapped_rate", .float (.finite (1 / 4))), (literal "limit", .int 2),
    (literal "top_unmapped",
      .list [unmappedEntry "format" "Shellac" 2, unmappedEntry "description" "Lathe" 1])]

/-- The reader of these two bodies. -/
def readSample (content : List UInt8) : Except Raised Json :=
  if content = summaryBody then .ok summaryValue
  else if content = coverageBody then .ok coverageValue
  else .error .jsonDecodeError

/-- A server that reads ASCII and these two bodies. -/
def sampleServer : Server where
  Float := JsonText.Special ⊕ ℤ
  format := JsonText.wholeFloats
  decode := asciiText
  limit := 3
  reprBody := fun _ => []
  readInt := fun _ => none
  digit := Char.isDigit
  unicode := Redaction.asciiInterpreter.toUnicode
  readJson := readSample
  reprJson := fun _ => []

def sampleCoverage : Coverage where
  version := .text (literal "20240101.0")
  source := .text (literal "discogs")
  provider := .text (literal "discogs")
  mediaTaggedReleases := .int 40
  releasesWithUnmappedMedia := .int 10
  unmappedRate := .float (.finite (1 / 4))
  limit := .int 2
  topUnmappedFormats := [⟨.text (literal "format"), .text (literal "Shellac"), .int 2⟩,
    ⟨.text (literal "description"), .text (literal "Lathe"), .int 1⟩]
  truncated := true

theorem readSample_summary : readSample summaryBody = .ok summaryValue := if_pos rfl

theorem readSample_coverage : readSample coverageBody = .ok coverageValue := by
  have differs : coverageBody ≠ summaryBody := by decide +kernel
  exact (if_neg differs).trans (if_pos rfl)

theorem readCoverage_sample : Run (readCoverage sampleServer summaryValue "discogs")
    [(coverageCall "discogs", { status := 200, content := coverageBody })]
    (.composed sampleCoverage.json) := by
  refine .ask _ _ _ _ _ ?_
  have reader : sampleServer.readJson = readSample := rfl
  rw [if_neg (by simp), reader, readSample_coverage]
  exact .done _

/-- Two names reach the limit of two. -/
theorem proxyCoverage_reads_discogs :
    Reads sampleServer (fun _ => "20240101.0")
      [({ method := "GET", apiPath := "/api/admin/extraction-analysis/20240101.0/summary" },
          { status := 200, content := summaryBody }),
        (coverageCall "discogs", { status := 200, content := coverageBody })] sampleCoverage.json := by
  apply proxyCoverage_reads
  refine .ask _ _ _ _ _ ?_
  have reader : sampleServer.readJson = readSample := rfl
  rw [if_neg (by simp), reader, readSample_summary]
  exact readCoverage_sample

end Examples

end OperationsConsole.Proxy
