/-
This file proves what the admin proxy asks catalog-api for a request, and how it answers.
Every question is an operation of the contract on the path of the request, and no question follows an
answer that is an error.
-/

import OperationsConsole.Proxy.RouteTable

namespace OperationsConsole.Proxy

open Library
open Library.Asking (Run)
open Library.Routing (valueOf)
open Redaction (Text)
open Session (CatalogAnswer ForwardedRequest Platform ProxyCall ProxyResponse Reason SessionCookie
  SessionGate authHeaders forwardedRequest loginCall logoutCall nonempty okResponse proxyRequest
  requestAuthorization requireConsoleRequest unavailableContent)

section Targets

/-- A handler asks for these operations. Only the login shows no credential. -/
structure Target where
  method : String
  path : ParameterRoute
  authenticate : Bool := true

def Handler.targets : Handler → List Target
  | relay method target => [⟨method, target, true⟩]
  | body target => [⟨"POST", target, true⟩]
  | trigger _ => [⟨"POST", adminExtractionTrigger, true⟩]
  | coverage => [⟨"GET", adminExtractionAnalysisSummary, true⟩, ⟨"GET", adminUnmappedMedia, true⟩]
  | login => [⟨"POST", adminLogin, false⟩]
  | logout => [⟨"POST", adminLogout, true⟩]

/-- The call of an operation has its method, and its path with accepted values. -/
structure Target.Made (target : Target) (values : String → String) (call : ProxyCall) : Prop where
  method : call.method = target.method
  path : target.path.forward values = .ok call.apiPath.toList
  authenticate : call.authenticate = target.authenticate

/-- The proxy answers by itself. -/
def Outcome.IsOwn : Outcome → Prop
  | .relayed _ => False
  | .signedIn _ => False
  | .signedOut _ => False
  | .composed _ => False
  | _ => True

/-- An answer ends the request: an error is relayed, and only a good one is read. -/
inductive Ends (handler : Handler) (response : ProxyResponse) : Outcome → Prop
  | relayed (kept : handler ≠ .logout) : Ends handler response (.relayed response)
  | signedIn (login : handler = .login) (good : response.status = 200) :
      Ends handler response (.signedIn response)
  | signedOut (logout : handler = .logout) : Ends handler response (.signedOut response)
  | raises (coverage : handler = .coverage) (good : response.status = 200) (error : Raised) :
      Ends handler response (.raises error)
  | composed (coverage : handler = .coverage) (good : response.status = 200) (content : Json) :
      Ends handler response (.composed content)

/-- A handler asks nothing, or it asks once, or it asks again after a good answer. -/
inductive Does (handler : Handler) (values : String → String) :
    List (ProxyCall × ProxyResponse) → Outcome → Prop
  | nothing (outcome : Outcome) (own : outcome.IsOwn) : Does handler values [] outcome
  | once (target : Target) (listed : target ∈ handler.targets) (call : ProxyCall)
      (made : target.Made values call) (response : ProxyResponse) (outcome : Outcome)
      (ends : Ends handler response outcome) : Does handler values [(call, response)] outcome
  | twice (coverage : handler = .coverage) (summary call : ProxyCall)
      (first : Target.Made ⟨"GET", adminExtractionAnalysisSummary, true⟩ values summary)
      (second : Target.Made ⟨"GET", adminUnmappedMedia, true⟩ values call)
      (good response : ProxyResponse) (status : good.status = 200) (outcome : Outcome)
      (ends : Ends handler response outcome) :
      Does handler values [(summary, good), (call, response)] outcome

end Targets

section Plans

variable (server : Server) (inbound : Inbound) (values : String → String)
variable (log : List (ProxyCall × ProxyResponse)) (outcome : Outcome)

/-- A route without parameters forwards its own path. -/
theorem forward_of_plain (route : ParameterRoute) (plain : route.parameters = []) :
    route.forward values = .ok (route.format values) := by
  rw [ParameterRoute.forward, plain]
  rfl

/-- The path of a route without parameters depends on no value. -/
theorem format_of_plain (route : ParameterRoute) (plain : route.parameters = [])
    (other : String → String) : route.format values = route.format other := by
  have same : route.template.map (Segment.fill values) = route.template.map (Segment.fill other) := by
    apply List.map_congr_left
    intro segment member
    cases segment with
    | fixed text => rfl
    | parameter name =>
        have listed : name ∈ route.parameters := List.mem_filterMap.mpr ⟨_, member, rfl⟩
        rw [plain] at listed
        cases listed
  rw [ParameterRoute.format, ParameterRoute.format, same]

theorem forward_login : adminLogin.forward values = .ok "/api/admin/auth/login".toList := by
  rw [forward_of_plain values adminLogin rfl, format_of_plain values adminLogin rfl fun _ => ""]
  exact congrArg Except.ok (by decide)

theorem forward_logout : adminLogout.forward values = .ok "/api/admin/auth/logout".toList := by
  rw [forward_of_plain values adminLogout rfl, format_of_plain values adminLogout rfl fun _ => ""]
  exact congrArg Except.ok (by decide)

/-- A plan with a target answers by itself, or it goes on with the path of the target. -/
theorem run_withTarget (target : ParameterRoute) (next : String → Plan)
    (run : Run (withTarget target values next) log outcome) :
    log = [] ∧ outcome.IsOwn ∨
      ∃ path, target.forward values = .ok path ∧ Run (next (String.ofList path)) log outcome := by
  unfold withTarget at run
  cases forwarded : target.forward values with
  | error content =>
      rw [forwarded] at run
      obtain ⟨none_asked, same⟩ := (Asking.run_done_iff _ _ _).mp run
      exact .inl ⟨none_asked, same ▸ trivial⟩
  | ok path =>
      rw [forwarded] at run
      exact .inr ⟨path, rfl, run⟩

/-- A plan with a body answers by itself, or it goes on with the content. -/
theorem run_withBody (body : BodyOutcome) (next : List UInt8 → Plan)
    (run : Run (withBody body next) log outcome) :
    log = [] ∧ outcome.IsOwn ∨ ∃ content, Run (next content) log outcome := by
  cases body with
  | refused detail =>
      obtain ⟨none_asked, same⟩ := (Asking.run_done_iff _ _ _).mp run
      exact .inl ⟨none_asked, same ▸ trivial⟩
  | raises error =>
      obtain ⟨none_asked, same⟩ := (Asking.run_done_iff _ _ _).mp run
      exact .inl ⟨none_asked, same ▸ trivial⟩
  | forward content => exact .inr ⟨_, run⟩

/-- A relay asks once and gives the answer back. -/
theorem run_relay (call : ProxyCall) (run : Run (relay call) log outcome) :
    ∃ response, log = [(call, response)] ∧ outcome = .relayed response := by
  obtain ⟨response, later, same, rest⟩ := (Asking.run_ask_iff _ _ _ _).mp run
  obtain ⟨none_asked, ended⟩ := (Asking.run_done_iff _ _ _).mp rest
  exact ⟨response, by rw [same, none_asked], ended⟩

/-- A composed answer asks nothing. -/
theorem run_composed (content : Json) (run : Run (composed content) log outcome) :
    log = [] ∧ ((∃ error, outcome = .raises error) ∨ ∃ content, outcome = .composed content) := by
  rcases (Asking.run_attempt_iff _ _ _ _ _).mp run with encoded | raised
  · obtain ⟨_, _, rest⟩ := encoded
    obtain ⟨none_asked, ended⟩ := (Asking.run_done_iff _ _ _).mp rest
    exact ⟨none_asked, .inr ⟨content, ended⟩⟩
  · obtain ⟨error, _, none_asked, ended⟩ := raised
    exact ⟨none_asked, .inl ⟨error, ended⟩⟩

/-- An exception after a good answer, or what is composed from it. -/
theorem ends_of_composed (response : ProxyResponse) (good : response.status = 200)
    (ended : (∃ error, outcome = .raises error) ∨ ∃ content, outcome = .composed content) :
    Ends .coverage response outcome := by
  rcases ended with raised | made
  · obtain ⟨error, same⟩ := raised
    exact same ▸ .raises rfl good error
  · obtain ⟨content, same⟩ := made
    exact same ▸ .composed rfl good content

/-- The reading of the coverage asks once. -/
theorem run_readCoverage (summary : Json) (provider : String)
    (run : Run (readCoverage server summary provider) log outcome) :
    ∃ response, log = [(coverageCall provider, response)] ∧ Ends .coverage response outcome := by
  obtain ⟨response, later, same, rest⟩ := (Asking.run_ask_iff _ _ _ _).mp run
  refine ⟨response, ?_⟩
  split at rest
  · obtain ⟨none_asked, ended⟩ := (Asking.run_done_iff _ _ _).mp rest
    exact ⟨by rw [same, none_asked], ended ▸ .relayed (by simp)⟩
  · rename_i status
    have good : response.status = 200 := not_not.mp status
    rcases (Asking.run_attempt_iff _ _ _ _ _).mp rest with read | raised
    · obtain ⟨coverage, _, rest⟩ := read
      rcases (Asking.run_attempt_iff _ _ _ _ _).mp rest with shaped | raised
      · obtain ⟨body, _, rest⟩ := shaped
        obtain ⟨none_asked, ended⟩ := run_composed _ _ _ rest
        exact ⟨by rw [same, none_asked], ends_of_composed outcome response good ended⟩
      · obtain ⟨error, _, none_asked, ended⟩ := raised
        exact ⟨by rw [same, none_asked], ended ▸ .raises rfl good error⟩
    · obtain ⟨error, _, none_asked, ended⟩ := raised
      exact ⟨by rw [same, none_asked], ended ▸ .raises rfl good error⟩

/-- The coverage call is made for the target of its route. -/
theorem made_coverageCall (provider : String) :
    Target.Made ⟨"GET", adminUnmappedMedia, true⟩ values (coverageCall provider) where
  method := rfl
  path := by
    rw [forward_of_plain values adminUnmappedMedia rfl, coverageCall, String.toList_ofList,
      format_of_plain values adminUnmappedMedia rfl]
  authenticate := rfl

/-- The coverage route does what its handler does. -/
theorem does_coverage (run : Run (proxyCoverage server values) log outcome) :
    Does .coverage values log outcome := by
  rcases run_withTarget values log outcome _ _ run with silent | forwarded
  · rw [silent.1]
    exact .nothing outcome silent.2
  · obtain ⟨path, target, rest⟩ := forwarded
    obtain ⟨response, later, same, rest⟩ := (Asking.run_ask_iff _ _ _ _).mp rest
    have made : Target.Made ⟨"GET", adminExtractionAnalysisSummary, true⟩ values
        { method := "GET", apiPath := String.ofList path } :=
      ⟨rfl, by rw [target, String.toList_ofList], rfl⟩
    have once (none_asked : later = []) (ends : Ends .coverage response outcome) :
        Does .coverage values log outcome := by
      rw [same, none_asked]
      exact .once _ List.mem_cons_self _ made response outcome ends
    split at rest
    · obtain ⟨none_asked, ended⟩ := (Asking.run_done_iff _ _ _).mp rest
      exact once none_asked (ended ▸ .relayed (by simp))
    · rename_i status
      have good : response.status = 200 := not_not.mp status
      have raised (error : Raised) (none_asked : later = []) (ended : outcome = .raises error) :
          Does .coverage values log outcome := once none_asked (ended ▸ .raises rfl good error)
      rcases (Asking.run_attempt_iff _ _ _ _ _).mp rest with read | failed
      · obtain ⟨summary, _, rest⟩ := read
        rcases (Asking.run_attempt_iff _ _ _ _ _).mp rest with named | failed
        · obtain ⟨source, _, rest⟩ := named
          rcases (Asking.run_attempt_iff _ _ _ _ _).mp rest with hashed | failed
          · obtain ⟨known, _, rest⟩ := hashed
            cases known with
            | none =>
                obtain ⟨none_asked, ended⟩ := run_composed _ _ _ rest
                exact once none_asked (ends_of_composed outcome response good ended)
            | some provider =>
                obtain ⟨second, asked, ends⟩ := run_readCoverage server later outcome _ _ rest
                rw [same, asked]
                exact .twice rfl _ _ made (made_coverageCall values provider) response second good
                  outcome ends
          · obtain ⟨error, _, none_asked, ended⟩ := failed
            exact raised error none_asked ended
        · obtain ⟨error, _, none_asked, ended⟩ := failed
          exact raised error none_asked ended
      · obtain ⟨error, _, none_asked, ended⟩ := failed
        exact raised error none_asked ended

/-- This is everything that a handler can do. -/
theorem does_of_plan (params : Option (Dict String String)) (handler : Handler)
    (run : Run (handler.plan server inbound values params) log outcome) :
    Does handler values log outcome := by
  cases handler with
  | relay method target =>
      rw [Handler.plan] at run
      rcases run_withTarget values log outcome _ _ run with silent | forwarded
      · rw [silent.1]
        exact .nothing outcome silent.2
      · obtain ⟨path, made, rest⟩ := forwarded
        obtain ⟨response, same, ended⟩ := run_relay log outcome _ rest
        rw [same, ended]
        exact .once _ List.mem_cons_self _ ⟨rfl, by rw [made, String.toList_ofList], rfl⟩ response _
          (.relayed (by simp))
  | body target =>
      rw [Handler.plan] at run
      rcases run_withTarget values log outcome _ _ run with silent | forwarded
      · rw [silent.1]
        exact .nothing outcome silent.2
      · obtain ⟨path, made, rest⟩ := forwarded
        rcases run_withBody log outcome _ _ rest with silent | read
        · rw [silent.1]
          exact .nothing outcome silent.2
        · obtain ⟨content, rest⟩ := read
          obtain ⟨response, same, ended⟩ := run_relay log outcome _ rest
          rw [same, ended]
          exact .once _ List.mem_cons_self _ ⟨rfl, by rw [made, String.toList_ofList], rfl⟩ response _
            (.relayed (by simp))
  | trigger source =>
      rw [Handler.plan] at run
      rcases run_withBody log outcome _ _ run with silent | read
      · rw [silent.1]
        exact .nothing outcome silent.2
      · obtain ⟨content, rest⟩ := read
        obtain ⟨response, same, ended⟩ := run_relay log outcome _ rest
        rw [same, ended]
        refine .once _ List.mem_cons_self _ ⟨rfl, ?_, rfl⟩ response _ (.relayed (by simp))
        rw [forward_of_plain values adminExtractionTrigger rfl, String.toList_ofList,
          format_of_plain values adminExtractionTrigger rfl]
  | coverage => exact does_coverage server values log outcome run
  | login =>
      rw [Handler.plan] at run
      rcases run_withBody log outcome _ _ run with silent | read
      · rw [silent.1]
        exact .nothing outcome silent.2
      · obtain ⟨content, rest⟩ := read
        obtain ⟨response, later, same, rest⟩ := (Asking.run_ask_iff _ _ _ _).mp rest
        obtain ⟨none_asked, ended⟩ := (Asking.run_done_iff _ _ _).mp rest
        rw [same, none_asked]
        refine .once _ List.mem_cons_self _ ⟨rfl, forward_login values, rfl⟩ response _ ?_
        · rw [ended]
          split
          · exact .relayed (by simp)
          · rename_i status
            exact .signedIn rfl (not_not.mp status)
  | logout =>
      rw [Handler.plan] at run
      obtain ⟨response, later, same, rest⟩ := (Asking.run_ask_iff _ _ _ _).mp run
      obtain ⟨none_asked, ended⟩ := (Asking.run_done_iff _ _ _).mp rest
      rw [same, none_asked, ended]
      exact .once _ List.mem_cons_self _ ⟨rfl, forward_logout values, rfl⟩ response
        _ (.signedOut rfl)

end Plans

section Agreement

/-- These routes ask for another path than their own. -/
def exceptions : List (List Segment × List Segment) :=
  [([.fixed "login"], [.fixed "auth", .fixed "login"]),
    ([.fixed "logout"], [.fixed "auth", .fixed "logout"]),
    ([.fixed "extractions", .fixed "trigger-musicbrainz"], [.fixed "extractions", .fixed "trigger"]),
    (analysisPath [.fixed "media-mapping-coverage"], analysisPath [.fixed "summary"]),
    (analysisPath [.fixed "media-mapping-coverage"], [.fixed "media", .fixed "unmapped"])]

/-- An operation of a route is listed in the contract, and it has the route's own method and path. Only
the login shows no credential, and only the login and the logout need no session. -/
structure Agrees (route : Route) (target : Target) : Prop where
  listed : (target.method, target.path) ∈ catalogAdminContract
  method : target.method = route.method
  path : ∃ above, target.path = adminPath above ∧
    (above = route.below ∨ (route.below, above) ∈ exceptions)
  credential : target.authenticate = true ∨ target.path = adminLogin
  gate : route.gated = true ∨ target.path = adminLogin ∨ target.path = adminLogout

/-- Every handler of the table agrees with its route. -/
theorem agrees_of_mem (digit : Char → Bool) :
    ∀ route ∈ routes digit, ∀ target ∈ route.handler.targets, Agrees route target := by
  intro route member target listed
  simp only [routes, List.mem_cons, List.not_mem_nil, or_false] at member
  rcases member with rfl | rfl | rfl | rfl | rfl | rfl | rfl | rfl | rfl | rfl | rfl | rfl | rfl |
    rfl | rfl | rfl | rfl | rfl | rfl | rfl | rfl | rfl | rfl | rfl
  -- Only the last route asks for two operations.
  on_goal 24 =>
    rcases List.mem_cons.mp listed with rfl | second
    · exact ⟨by simp [catalogAdminContract], rfl, ⟨_, rfl, .inr (by decide)⟩, .inl rfl, .inl rfl⟩
    · obtain rfl := List.mem_singleton.mp second
      exact ⟨by simp [catalogAdminContract], rfl, ⟨_, rfl, .inr (by decide)⟩, .inl rfl, .inl rfl⟩
  all_goals
    obtain rfl := List.mem_singleton.mp listed
    refine ⟨by simp [catalogAdminContract], rfl, ⟨_, rfl, ?_⟩, ?_, ?_⟩
    · first
      | exact .inl rfl
      | exact .inr (by decide)
    · first
      | exact .inl rfl
      | exact .inr rfl
    · first
      | exact .inl rfl
      | exact .inr (.inl rfl)
      | exact .inr (.inr rfl)

end Agreement

section Laws

/-- The path of an operation below `/api/admin`, for a path of the console below `/admin/api`. -/
inductive Mirrors : List Text → List Text → Prop
  | same (below : List Text) : Mirrors below below
  | login : Mirrors ["login".toList] ["auth".toList, "login".toList]
  | logout : Mirrors ["logout".toList] ["auth".toList, "logout".toList]
  | trigger : Mirrors ["extractions".toList, "trigger-musicbrainz".toList]
      ["extractions".toList, "trigger".toList]
  | summary (version : Text) :
      Mirrors ["extraction-analysis".toList, version, "media-mapping-coverage".toList]
        ["extraction-analysis".toList, version, "summary".toList]
  | media (version : Text) :
      Mirrors ["extraction-analysis".toList, version, "media-mapping-coverage".toList]
        ["media".toList, "unmapped".toList]

/-- A call is an operation of the contract with accepted values, on the path of the request. -/
structure Asked (inbound : Inbound) (call : ProxyCall) : Prop where
  operation : ∃ operation ∈ catalogAdminContract, call.method = operation.1 ∧
    ∃ values, operation.2.forward values = .ok call.apiPath.toList
  method : call.method = inbound.method
  mirrored : ∃ below above, PathParts inbound ("".toList :: "admin".toList :: "api".toList :: below) ∧
    call.apiPath.toList = pathOf ("api".toList :: "admin".toList :: above) ∧ Mirrors below above

/-- These calls need no session. -/
def publicPaths : List String := ["/api/admin/auth/login", "/api/admin/auth/logout"]

variable (server : Server) (inbound : Inbound) (admitted : Except Reason Unit)
variable (cookie : SessionCookie)

/-- catalog-api sees the credential of the request except at a login, and the peer that the console
sees. -/
structure Shown (call : ProxyCall) : Prop where
  credential : (forwardedRequest cookie inbound.toRequest call).headers.get? "Authorization" =
    if call.authenticate then nonempty (requestAuthorization cookie inbound.toRequest) else none
  login : call.authenticate = false → call.apiPath = "/api/admin/auth/login"
  peer : (forwardedRequest cookie inbound.toRequest call).headers.get? "X-Forwarded-For" =
    nonempty inbound.clientHost

/-- The guards have let the request pass when the proxy asks, and it asks at most twice. -/
structure RequestLaw (log : List (ProxyCall × ProxyResponse)) : Prop where
  asked : ∀ entry ∈ log, Asked inbound entry.1
  shown : ∀ entry ∈ log, Shown inbound cookie entry.1
  genuine : log ≠ [] → requireConsoleRequest server.unicode inbound.toRequest = .ok ()
  signedIn : ∀ entry ∈ log, admitted = .ok () ∨ entry.1.apiPath ∈ publicPaths
  few : log.length ≤ 2

/-- A path mirrors its own segments, or it is an exception. -/
theorem mirrors_of_path (values : String → String) (below above : List Segment)
    (path : above = below ∨ (below, above) ∈ exceptions) :
    Mirrors (below.map (Segment.fill values)) (above.map (Segment.fill values)) := by
  rcases path with same | exception
  · rw [same]
    exact .same _
  · simp only [exceptions, List.mem_cons, List.not_mem_nil, or_false, Prod.mk.injEq] at exception
    rcases exception with ⟨rfl, rfl⟩ | ⟨rfl, rfl⟩ | ⟨rfl, rfl⟩ | ⟨rfl, rfl⟩ | ⟨rfl, rfl⟩
    · exact .login
    · exact .logout
    · exact .trigger
    · exact .summary _
    · exact .media _

/-- A path that is forwarded is the formatted path. -/
theorem format_of_forward (route : ParameterRoute) (values : String → String) (path : Text)
    (forwarded : route.forward values = .ok path) : path = route.format values := by
  unfold ParameterRoute.forward at forwarded
  split at forwarded
  · cases forwarded
  · exact (Except.ok.inj forwarded).symm

/-- A guarded route answers by itself, or the request passed both checks and the plan runs. -/
theorem run_guarded (route : Route) (values : String → String)
    (log : List (ProxyCall × ProxyResponse)) (outcome : Outcome)
    (run : Run (guarded server inbound admitted route values) log outcome) :
    log = [] ∧ outcome.IsOwn ∨
      requireConsoleRequest server.unicode inbound.toRequest = .ok () ∧
        (route.gated = true → admitted = .ok ()) ∧ Run (route.plan server inbound values) log outcome := by
  unfold guarded at run
  cases genuine : requireConsoleRequest server.unicode inbound.toRequest with
  | error refusal =>
      rw [genuine] at run
      obtain ⟨none_asked, same⟩ := (Asking.run_done_iff _ _ _).mp run
      exact .inl ⟨none_asked, same ▸ trivial⟩
  | ok passed =>
      rw [genuine] at run
      cases gated : route.gated with
      | false =>
          rw [gated] at run
          exact .inr ⟨rfl, fun gate => absurd gate Bool.false_ne_true, run⟩
      | true =>
          rw [gated] at run
          cases admitted with
          | ok entered => exact .inr ⟨rfl, fun _ => rfl, run⟩
          | error reason =>
              obtain ⟨none_asked, same⟩ := (Asking.run_done_iff _ _ _).mp run
              exact .inl ⟨none_asked, same ▸ trivial⟩

/-- Every route does what its handler does. -/
theorem run_route (route : Route) (values : String → String)
    (log : List (ProxyCall × ProxyResponse)) (outcome : Outcome)
    (run : Run (route.plan server inbound values) log outcome) :
    Does route.handler values log outcome := by
  unfold Route.plan at run
  split at run
  · exact does_of_plan server inbound values log outcome none route.handler run
  · split at run
    · obtain ⟨none_asked, same⟩ := (Asking.run_done_iff _ _ _).mp run
      rw [none_asked]
      exact .nothing outcome (same ▸ trivial)
    · exact does_of_plan server inbound values log outcome _ route.handler run

/-- The guards come before the handler of the route that answers. -/
theorem run_serve (log : List (ProxyCall × ProxyResponse)) (outcome : Outcome)
    (run : Run (serve server inbound admitted) log outcome) :
    log = [] ∧ outcome.IsOwn ∨
      ∃ route ∈ routes server.digit, ∃ found, route.answers inbound = some found ∧
        requireConsoleRequest server.unicode inbound.toRequest = .ok () ∧
        (route.gated = true → admitted = .ok ()) ∧
        Does route.handler (fun name => String.ofList (valueOf found.2 name)) log outcome := by
  unfold serve at run
  cases routed : route? server.digit inbound with
  | none =>
      rw [routed] at run
      obtain ⟨none_asked, same⟩ := (Asking.run_done_iff _ _ _).mp run
      exact .inl ⟨none_asked, same ▸ trivial⟩
  | some found =>
      obtain ⟨route, member, answered⟩ := (Routing.findSome?_eq_some_iff _ _
        (routes_exclusive server.digit inbound) found).mp routed
      obtain ⟨_, taken, _⟩ := (answers_eq_some_iff inbound route found).mp answered
      rw [routed] at run
      rcases run_guarded server inbound admitted _ _ log outcome run with silent | entered
      · exact .inl silent
      · obtain ⟨genuine, session, rest⟩ := entered
        rw [taken] at session rest
        exact .inr ⟨route, member, found, answered, genuine, session,
          run_route server inbound route _ log outcome rest⟩

/-- The console adds no header but the credential, the client and the type of the body. -/
theorem get?_forwardedRequest (call : ProxyCall) (name : String) (other : name ≠ "Content-Type") :
    (forwardedRequest cookie inbound.toRequest call).headers.get? name =
      (authHeaders cookie inbound.toRequest call.authenticate).get? name := by
  unfold forwardedRequest
  dsimp only
  split
  · rfl
  · rw [Dict.get?_set, if_neg other]

/-- An authenticated call has the bearer of the request. -/
theorem get?_authorization (authenticate : Bool) :
    (authHeaders cookie inbound.toRequest authenticate).get? "Authorization" =
      if authenticate then nonempty (requestAuthorization cookie inbound.toRequest) else none := by
  have credential : nonempty (if authenticate then requestAuthorization cookie inbound.toRequest
      else none) = if authenticate then nonempty (requestAuthorization cookie inbound.toRequest)
        else none := by
    cases authenticate <;> rfl
  unfold authHeaders
  dsimp only
  rw [Dict.get?_set, if_neg (by decide), ← credential]
  cases nonempty (if authenticate then requestAuthorization cookie inbound.toRequest else none) <;>
    cases nonempty inbound.clientHost <;> simp

/-- Every call names the client. -/
theorem get?_forwardedFor (authenticate : Bool) :
    (authHeaders cookie inbound.toRequest authenticate).get? "X-Forwarded-For" =
      nonempty inbound.clientHost := by
  unfold authHeaders
  dsimp only
  rw [Dict.get?_set, if_neg (by decide)]
  cases nonempty (if authenticate then requestAuthorization cookie inbound.toRequest else none) <;>
    cases nonempty inbound.clientHost <;> simp

/-- Every call that a handler makes is made for one of its targets. -/
theorem made_of_does (handler : Handler) (values : String → String)
    (log : List (ProxyCall × ProxyResponse)) (outcome : Outcome)
    (does : Does handler values log outcome) :
    ∀ entry ∈ log, ∃ target ∈ handler.targets, target.Made values entry.1 := by
  intro entry member
  cases does with
  | nothing _ own => cases member
  | once target listed call made response _ ends =>
      rw [List.mem_singleton] at member
      rw [member]
      exact ⟨target, listed, made⟩
  | twice coverage summary call first second good response status _ ends =>
      rw [coverage]
      rcases List.mem_cons.mp member with same | later
      · rw [same]
        exact ⟨_, List.mem_cons_self, first⟩
      · rw [List.mem_singleton.mp later]
        exact ⟨_, List.mem_cons_of_mem _ List.mem_cons_self, second⟩

section Calls

variable (route : Route) (member : route ∈ routes server.digit) (found : Route × List (String × Text))
variable (answered : route.answers inbound = some found) (target : Target)
variable (listed : target ∈ route.handler.targets) (call : ProxyCall)
variable (made : target.Made (fun name => String.ofList (valueOf found.2 name)) call)

include member listed made

/-- The path of a call mirrors the path of its route, or it is an exception. -/
theorem apiPath_of_made : ∃ above, (above = route.below ∨ (route.below, above) ∈ exceptions) ∧
    call.apiPath.toList = pathOf ("api".toList :: "admin".toList ::
      above.map (Segment.fill fun name => String.ofList (valueOf found.2 name))) := by
  obtain ⟨above, same, mirrored⟩ := (agrees_of_mem server.digit route member target listed).path
  have formatted := format_of_forward _ _ _ made.path
  rw [same] at formatted
  exact ⟨above, mirrored, formatted⟩

include answered

theorem asked_of_made : Asked inbound call := by
  have agrees := agrees_of_mem server.digit route member target listed
  obtain ⟨above, mirrored, path⟩ :=
    apiPath_of_made server route member found target listed call made
  obtain ⟨method, _, _⟩ := (answers_eq_some_iff inbound route found).mp answered
  constructor
  · exact ⟨_, agrees.listed, made.method, _, made.path⟩
  · rw [made.method, agrees.method, method]
  · exact ⟨_, _, pathParts_of_answers server.digit inbound route member found answered, path,
      mirrors_of_path _ route.below above mirrored⟩

omit answered

/-- A call shows the credentials of the request only. -/
theorem shown_of_made : Shown inbound cookie call where
  credential := by
    rw [get?_forwardedRequest inbound cookie call "Authorization" (by decide),
      get?_authorization inbound cookie]
  peer := by
    rw [get?_forwardedRequest inbound cookie call "X-Forwarded-For" (by decide),
      get?_forwardedFor inbound cookie]
  login := by
    intro anonymous
    have shown : target.authenticate ≠ true := by
      rw [← made.authenticate, anonymous]
      exact Bool.false_ne_true
    have login := (agrees_of_mem server.digit route member target listed).credential.resolve_left shown
    have path := made.path
    rw [login, forward_login] at path
    exact (String.toList_inj.mp (Except.ok.inj path)).symm

/-- A call without a session is for a public path. -/
theorem public_of_made (entered : route.gated = true → admitted = .ok ()) :
    admitted = .ok () ∨ call.apiPath ∈ publicPaths := by
  have path := made.path
  rcases (agrees_of_mem server.digit route member target listed).gate with gated | login | logout
  · exact .inl (entered gated)
  · rw [login, forward_login] at path
    rw [← String.toList_inj.mp (Except.ok.inj path)]
    exact .inr List.mem_cons_self
  · rw [logout, forward_logout] at path
    rw [← String.toList_inj.mp (Except.ok.inj path)]
    exact .inr (List.mem_cons_of_mem _ List.mem_cons_self)

end Calls

/-- This is the law of every run, whatever catalog-api answers. -/
theorem serve_requestLaw (log : List (ProxyCall × ProxyResponse)) (outcome : Outcome)
    (run : Run (serve server inbound admitted) log outcome) :
    RequestLaw server inbound admitted cookie log := by
  rcases run_serve server inbound admitted log outcome run with silent | entered
  · rw [silent.1]
    constructor
    · intro entry absent
      cases absent
    · intro entry absent
      cases absent
    · intro present
      exact absurd rfl present
    · intro entry absent
      cases absent
    · exact Nat.zero_le 2
  · obtain ⟨route, member, found, answered, genuine, session, does⟩ := entered
    have made := made_of_does route.handler _ log outcome does
    constructor
    · intro entry asked
      obtain ⟨target, listed, made⟩ := made entry asked
      exact asked_of_made server inbound route member found answered target listed entry.1 made
    · intro entry asked
      obtain ⟨target, listed, made⟩ := made entry asked
      exact shown_of_made server inbound cookie route member found target listed entry.1 made
    · exact fun _ => genuine
    · intro entry asked
      obtain ⟨target, listed, made⟩ := made entry asked
      exact public_of_made server admitted route member found target listed entry.1 made session
    · cases does with
      | nothing => exact Nat.zero_le 2
      | once => exact Nat.le_succ 1
      | twice => exact Nat.le_refl 2

end Laws

section Answers

variable (server : Server) (inbound : Inbound) (admitted : Except Reason Unit)
variable (cookie : SessionCookie) (catalog : ForwardedRequest → Option CatalogAnswer)

end Answers

section Exchanges

variable (server : Server) (inbound : Inbound) (admitted : Except Reason Unit)
variable (platform : Platform) (catalog : ForwardedRequest → Option CatalogAnswer)
variable (cookie : SessionCookie) (gate : SessionGate)

/-- A request is served with catalog-api behind the proxy. -/
def exchange : SessionGate × List (ProxyCall × ProxyResponse) × Outcome :=
  Asking.follow (fun gate call => proxyRequest platform catalog cookie gate inbound.toRequest call)
    gate (serve server inbound admitted)

/-- The console asks catalog-api only for operations of the contract, on the path and with the method
of the request that its guards have let pass. -/
theorem exchange_requestLaw : RequestLaw server inbound admitted cookie
    (exchange server inbound admitted platform catalog cookie gate).2.1 :=
  serve_requestLaw server inbound admitted cookie _ _ (Asking.run_follow _ gate _)

end Exchanges

end OperationsConsole.Proxy
