/-
This file embeds the table of the admin proxy's routes. A request finds its route, it passes the
guards of the console and the rules of the framework, and its handler asks catalog-api.
-/

import OperationsConsole.Library.Asking
import OperationsConsole.Library.Routing
import OperationsConsole.Proxy.JsonBodies
import OperationsConsole.Proxy.MediaMapping
import OperationsConsole.Proxy.PathSegment
import OperationsConsole.Proxy.QueryRules
import OperationsConsole.Session.LoginResponse

namespace OperationsConsole.Proxy

open Library
open Library.JsonText (FloatFormat Value)
open Library.Routing (Piece captureLine valueOf)
open Redaction (Text Unicode)
open Session (CatalogAnswer ForwardedRequest Platform ProxyCall ProxyResponse Reason SessionCookie
  SessionGate loginCall logoutCall malformedContent requireConsoleRequest)

section Contract

def adminAuditLog : ParameterRoute := adminPath [.fixed "audit-log"]

def adminExtractions : ParameterRoute := adminPath [.fixed "extractions"]

def adminExtractionTrigger : ParameterRoute := adminPath [.fixed "extractions", .fixed "trigger"]

def adminExtractionAnalysisVersions : ParameterRoute :=
  adminPath [.fixed "extraction-analysis", .fixed "versions"]

def adminIdentityLedgerDensity : ParameterRoute :=
  adminPath [.fixed "identity", .fixed "ledger", .fixed "density"]

def adminIdentityLedgerWorks : ParameterRoute :=
  adminPath [.fixed "identity", .fixed "ledger", .fixed "works"]

def adminIdentityProject : ParameterRoute := adminPath [.fixed "identity", .fixed "project"]

def adminLogin : ParameterRoute := adminPath [.fixed "auth", .fixed "login"]

def adminLogout : ParameterRoute := adminPath [.fixed "auth", .fixed "logout"]

def adminSession : ParameterRoute := adminPath [.fixed "auth", .fixed "session"]

def adminStorage : ParameterRoute := adminPath [.fixed "storage"]

def adminSyncActivity : ParameterRoute := adminPath [.fixed "users", .fixed "sync-activity"]

def adminUnmappedMedia : ParameterRoute := adminPath [.fixed "media", .fixed "unmapped"]

def adminUserStats : ParameterRoute := adminPath [.fixed "users", .fixed "stats"]

/-- These are the operations of the generated contract. -/
def catalogAdminContract : List (String × ParameterRoute) :=
  [("GET", adminAuditLog), ("POST", adminDlqPurge), ("GET", adminExtraction),
    ("GET", adminExtractionAnalysisCompare), ("POST", adminExtractionAnalysisGenerateAiPrompt),
    ("GET", adminExtractionAnalysisParsingErrors), ("POST", adminExtractionAnalysisPromptContext),
    ("GET", adminExtractionAnalysisSkipped), ("GET", adminExtractionAnalysisSummary),
    ("GET", adminExtractionAnalysisVersions), ("GET", adminExtractionAnalysisViolation),
    ("GET", adminExtractionAnalysisViolations), ("POST", adminExtractionTrigger),
    ("GET", adminExtractions), ("GET", adminIdentityLedgerDensity),
    ("GET", adminIdentityLedgerWork), ("GET", adminIdentityLedgerWorks),
    ("POST", adminIdentityProject), ("POST", adminLogin), ("POST", adminLogout),
    ("GET", adminSession), ("GET", adminStorage), ("GET", adminSyncActivity),
    ("GET", adminUnmappedMedia), ("GET", adminUserStats)]

end Contract

section Table

/-- A handler relays its path, or it also sends the body, or it has a rule of its own. -/
inductive Handler where
  | relay (method : String) (target : ParameterRoute)
  | body (target : ParameterRoute)
  | trigger (source : String)
  | coverage
  | login
  | logout

/-- A route answers one method on the paths below `/admin/api`. A handler that reads no parameters
sends none. -/
structure Route where
  method : String
  below : List Segment
  parameters : Option (List Parameter) := none
  gated : Bool := true
  handler : Handler

def proxyLoginRoute : Route :=
  { method := "POST", below := [.fixed "login"], gated := false, handler := .login }

def proxyLogoutRoute : Route :=
  { method := "POST", below := [.fixed "logout"], gated := false, handler := .logout }

def proxyListExtractions : Route :=
  { method := "GET", below := [.fixed "extractions"], handler := .relay "GET" adminExtractions }

def proxyGetExtraction : Route :=
  { method := "GET", below := [.fixed "extractions", .parameter "extraction_id"]
    handler := .relay "GET" adminExtraction }

def proxyTriggerRoute : Route :=
  { method := "POST", below := [.fixed "extractions", .fixed "trigger"]
    handler := .trigger "discogs" }

def proxyTriggerMusicbrainzRoute : Route :=
  { method := "POST", below := [.fixed "extractions", .fixed "trigger-musicbrainz"]
    handler := .trigger "musicbrainz" }

def proxyUserStats : Route :=
  { method := "GET", below := [.fixed "users", .fixed "stats"]
    handler := .relay "GET" adminUserStats }

def proxySyncActivity : Route :=
  { method := "GET", below := [.fixed "users", .fixed "sync-activity"]
    handler := .relay "GET" adminSyncActivity }

def proxyStorage : Route :=
  { method := "GET", below := [.fixed "storage"], handler := .relay "GET" adminStorage }

def proxyDlqPurge : Route :=
  { method := "POST", below := [.fixed "dlq", .fixed "purge", .parameter "queue"]
    handler := .relay "POST" adminDlqPurge }

def proxyAuditLog : Route :=
  { method := "GET", below := [.fixed "audit-log"], parameters := some auditLogParameters
    handler := .relay "GET" adminAuditLog }

-- The pattern engine reads more digits than the ASCII ones.
variable (digit : Char → Bool)

def proxyIdentityLedgerWorks : Route :=
  { method := "GET", below := [.fixed "identity", .fixed "ledger", .fixed "works"]
    parameters := some (ledgerWorksParameters digit), handler := .relay "GET" adminIdentityLedgerWorks }

def proxyIdentityLedgerWork : Route :=
  { method := "GET", below := [.fixed "identity", .fixed "ledger", .fixed "works", .parameter "work_id"]
    parameters := some (ledgerWorkParameters digit), handler := .relay "GET" adminIdentityLedgerWork }

def proxyIdentityLedgerDensity : Route :=
  { method := "GET", below := [.fixed "identity", .fixed "ledger", .fixed "density"]
    parameters := some ledgerDensityParameters, handler := .relay "GET" adminIdentityLedgerDensity }

def proxyEaVersions : Route :=
  { method := "GET", below := [.fixed "extraction-analysis", .fixed "versions"]
    handler := .relay "GET" adminExtractionAnalysisVersions }

/-- This is a path below one version of the extraction analysis. -/
def analysisPath (rest : List Segment) : List Segment :=
  [.fixed "extraction-analysis", .parameter "version"] ++ rest

def proxyEaSummary : Route :=
  { method := "GET", below := analysisPath [.fixed "summary"]
    handler := .relay "GET" adminExtractionAnalysisSummary }

def proxyEaViolationDetail : Route :=
  { method := "GET", below := analysisPath [.fixed "violations", .parameter "record_id"]
    handler := .relay "GET" adminExtractionAnalysisViolation }

def proxyEaSkipped : Route :=
  { method := "GET", below := analysisPath [.fixed "skipped"], parameters := some skippedParameters
    handler := .relay "GET" adminExtractionAnalysisSkipped }

def proxyEaViolations : Route :=
  { method := "GET", below := analysisPath [.fixed "violations"]
    parameters := some violationsParameters
    handler := .relay "GET" adminExtractionAnalysisViolations }

def proxyEaParsingErrors : Route :=
  { method := "GET", below := analysisPath [.fixed "parsing-errors"]
    handler := .relay "GET" adminExtractionAnalysisParsingErrors }

def proxyEaCompare : Route :=
  { method := "GET", below := analysisPath [.fixed "compare", .parameter "other_version"]
    handler := .relay "GET" adminExtractionAnalysisCompare }

def proxyEaPromptContext : Route :=
  { method := "POST", below := analysisPath [.fixed "prompt-context"]
    handler := .body adminExtractionAnalysisPromptContext }

def proxyEaGenerateAiPrompt : Route :=
  { method := "POST", below := analysisPath [.fixed "generate-ai-prompt"]
    handler := .body adminExtractionAnalysisGenerateAiPrompt }

def proxyEaMediaMappingCoverage : Route :=
  { method := "GET", below := analysisPath [.fixed "media-mapping-coverage"], handler := .coverage }

/-- The routes are registered in this order. -/
def routes : List Route :=
  [proxyLoginRoute, proxyLogoutRoute, proxyListExtractions, proxyGetExtraction, proxyTriggerRoute,
    proxyTriggerMusicbrainzRoute, proxyUserStats, proxySyncActivity, proxyStorage, proxyDlqPurge,
    proxyAuditLog, proxyIdentityLedgerWorks digit, proxyIdentityLedgerWork digit,
    proxyIdentityLedgerDensity, proxyEaVersions, proxyEaSummary, proxyEaViolationDetail,
    proxyEaSkipped, proxyEaViolations, proxyEaParsingErrors, proxyEaCompare, proxyEaPromptContext,
    proxyEaGenerateAiPrompt, proxyEaMediaMappingCoverage]

end Table

section Matching

def Segment.part : Segment → Piece String
  | fixed text => .fixed text
  | parameter name => .parameter name

/-- The path of a request is a decoded text, and its query is a list of decoded pairs. -/
structure Inbound extends Session.Request where
  path : Text
  query : List (Text × Text)
  body : List UInt8

def Route.template (route : Route) : List (Piece String) :=
  (Segment.fixed "" :: .fixed "admin" :: .fixed "api" :: route.below).map Segment.part

/-- A route that answers a request has a value for each of its parameters. -/
def Route.answers (inbound : Inbound) (route : Route) : Option (Route × List (String × Text)) :=
  if inbound.method = route.method then
    (captureLine route.template (inbound.path.splitOn '/')).map fun values => (route, values)
  else none

/-- The first route that answers is taken. -/
def route? (digit : Char → Bool) (inbound : Inbound) : Option (Route × List (String × Text)) :=
  (routes digit).findSome? (Route.answers inbound)

end Matching

/-- These parts of the language and of the framework are not the console's own. -/
structure Server where
  Float : Type
  format : FloatFormat Float
  decode : List UInt8 → Option PyText
  limit : ℕ
  reprBody : Value Float → PyText
  readInt : Text → Option ℤ
  digit : Char → Bool
  unicode : Unicode
  readJson : List UInt8 → Except Raised Json
  reprJson : Json → PyText

/-- The proxy answers by itself, or it relays an answer, or it composes one. -/
inductive Outcome where
  | unrouted
  | forbidden (refusal : Session.Refusal)
  | rejected (reason : Reason)
  | unprocessable
  | invalidSegment (content : String)
  | refused (detail : PyText)
  | raises (error : Raised)
  | relayed (response : ProxyResponse)
  | signedIn (response : ProxyResponse)
  | signedOut (response : ProxyResponse)
  | composed (content : Json)

section Serving

variable (server : Server) (inbound : Inbound)

/-- A computation of the proxy asks catalog-api and ends in an outcome. -/
abbrev Plan := Asking ProxyCall ProxyResponse Outcome

def paramsOf (sent : List (Text × Text)) : Dict String String :=
  sent.foldl (fun params pair => params.set (String.ofList pair.1) (String.ofList pair.2)) .empty

def contentOf (content : Option (List Char)) : List UInt8 :=
  content.elim [] fun text => utf8 (String.ofList text)

/-- A body that is refused ends the request, and so does an exception. -/
def withBody (outcome : BodyOutcome) (next : List UInt8 → Plan) : Plan :=
  match outcome with
  | .refused detail => .done (.refused detail)
  | .raises error => .done (.raises error)
  | .forward content => next (contentOf content)

def relay (call : ProxyCall) : Plan := .ask call fun response => .done (.relayed response)

/-- The path parameters are checked before the path is made. -/
def withTarget (target : ParameterRoute) (values : String → String) (next : String → Plan) : Plan :=
  match target.forward values with
  | .error content => .done (.invalidSegment content)
  | .ok path => next (String.ofList path)

def coverageCall (provider : String) : ProxyCall where
  method := "GET"
  apiPath := String.ofList (adminUnmappedMedia.format fun _ => "")
  params := some (paramsOf
    [("provider".toList, provider.toList), ("limit".toList, decimal mediaMappingTopN)])

/-- A composed body is encoded when its response is made. -/
def composed (content : Json) : Plan :=
  .attempt (encodeJson content) .raises fun _ => .done (.composed content)

/-- The second answer is read only for a known provider. -/
def readCoverage (summary : Json) (provider : String) : Plan :=
  .ask (coverageCall provider) fun response =>
    if response.status ≠ 200 then .done (.relayed response)
    else .attempt (server.readJson response.content) .raises fun coverage =>
      .attempt (composeMediaMappingCoverage summary coverage) .raises fun body => composed body.json

def proxyCoverage (values : String → String) : Plan :=
  withTarget adminExtractionAnalysisSummary values fun path =>
    .ask { method := "GET", apiPath := path } fun response =>
      if response.status ≠ 200 then .done (.relayed response)
      else .attempt (server.readJson response.content) .raises fun summary =>
        .attempt (summary.get "source" .null) .raises fun source =>
          .attempt (providerOf source) .raises fun known =>
            match known with
            | some provider => readCoverage server summary provider
            | none => composed
                (mediaMappingUnavailable server.reprJson (literal (values "version")) source)

def Handler.plan (values : String → String) (params : Option (Dict String String)) :
    Handler → Plan
  | relay method target =>
      withTarget target values fun path =>
        Proxy.relay { method := method, apiPath := path, params := params }
  -- Both handlers of a prompt read their body as the login does.
  | body target =>
      withTarget target values fun path =>
        withBody (proxyLoginBody server.format server.decode server.limit inbound.body) fun content =>
          Proxy.relay { method := "POST", apiPath := path, content := content }
  | trigger source =>
      withBody (proxyTriggerForSource server.format server.decode server.limit server.reprBody source
        inbound.body) fun content =>
          Proxy.relay { method := "POST", content := content
                        apiPath := String.ofList (adminExtractionTrigger.format fun _ => "") }
  | coverage => proxyCoverage server values
  | login =>
      withBody (proxyLoginBody server.format server.decode server.limit inbound.body) fun content =>
        .ask (loginCall content) fun response =>
          .done (if response.status ≠ 200 then .relayed response else .signedIn response)
  | logout => .ask logoutCall fun response => .done (.signedOut response)

/-- The rules of the query come before the handler. -/
def Route.plan (route : Route) (values : String → String) : Plan :=
  match route.parameters with
  | none => route.handler.plan server inbound values none
  | some parameters =>
      match proxyParams server.readInt parameters inbound.query with
      | none => .done .unprocessable
      | some sent => route.handler.plan server inbound values (some (paramsOf sent))

/-- The guard on forged requests comes first, and then the session of a gated route. -/
def guarded (admitted : Except Reason Unit) (route : Route) (values : String → String) : Plan :=
  match requireConsoleRequest server.unicode inbound.toRequest with
  | .error refusal => .done (.forbidden refusal)
  | .ok () =>
      match route.gated, admitted with
      | true, .error reason => .done (.rejected reason)
      | _, _ => route.plan server inbound values

def serve (admitted : Except Reason Unit) : Plan :=
  match route? server.digit inbound with
  | none => .done .unrouted
  | some found =>
      guarded server inbound admitted found.1 fun name => String.ofList (valueOf found.2 name)

end Serving

end OperationsConsole.Proxy
