/-
This file embeds the session lifecycle of the `Dashboard` class in `dashboard.js`.
A step runs from one await point of a reader to the next, and any order of steps is a run.
-/

import OperationsConsole.Browser.LiveData
import OperationsConsole.Library.Loop

namespace OperationsConsole.Browser

open Library

/-- The Overview keeps these items of a session. The bases of the deep links are absent when the
console served none. -/
structure Held where
  topology : Option (Sent Topology) := none
  pendingData : Option (Sent SystemMetrics) := none
  lastReading : Option (Sent SystemMetrics) := none
  history : History := Dict.empty
  runs : Dict String (Sent Run) := Dict.empty
  runProgress : Dict String (Sent ProgressEntry) := Dict.empty
  alerts : Option (Sent Alerts) := none
  linkBases : Option (Sent LinkBases) := none

/-- A guarded request remembers its session, which the reader compares after the answer. -/
structure GuardedRequest where
  session : Option Nat
  period : Nat
  deriving DecidableEq

structure ProgressRequest where
  request : GuardedRequest
  pipeline : String
  key : ProgressKey
  deriving DecidableEq

/-- These readers wait for the topology. -/
inductive Waiter where
  | initial
  | pending
  | progress (session : Option Nat)
  deriving DecidableEq

/-- The state holds the session, its items, its socket, and the requests in flight. The period
numbers the sessions: every start that does not resume the current session begins the next one. -/
structure Dashboard extends Held where
  active : Bool := false
  session : Option Nat := none
  period : Nat := 0
  topologyRequest : Option Nat := none
  metricsRequests : List Nat := []
  alertRequests : List GuardedRequest := []
  linkRequests : List GuardedRequest := []
  extractionRequests : List GuardedRequest := []
  progressRequests : List ProgressRequest := []
  waiting : List Waiter := []
  ready : List (Waiter × Bool) := []
  ws : Option Nat := none
  connecting : Bool := false
  reconnectTimer : Bool := false

/-- One step of the page, of its timers, of its socket, or of an answer. -/
inductive DashboardInput where
  | start (session : Option Nat)
  | stop
  | topologyAnswer (answer : Answer Topology)
  | metricsAnswer (index : Nat) (answer : Answer SystemMetrics)
  | alertsAnswer (index : Nat) (answer : Answer Alerts)
  | linksAnswer (index : Nat) (answer : Answer LinkBases)
  | extractionsAnswer (index : Nat) (answer : Answer (List Run))
  | progressAnswer (index : Nat) (answer : Answer Session.Json)
  | resume (index : Nat)
  | ticketAnswer (answer : Answer String)
  | frame (reading : SystemMetrics)
  | socketClosed (code : Nat)
  | reconnectTick
  | alertsTick
  | progressTick

namespace Dashboard

section Readers

variable (page : Dashboard)

/-- A caller shares the request in flight, and with a topology it continues at once. -/
def ensureTopology (waiter : Waiter) : Dashboard :=
  if page.topology.isSome then { page with ready := page.ready ++ [(waiter, true)] }
  else { page with
    topologyRequest := some (page.topologyRequest.getD page.period)
    waiting := page.waiting ++ [waiter] }

def renderTopology (topology : Sent Topology) : Dashboard :=
  { page with topology := some topology, history := Dict.empty }

/-- The answer of the topology lets every waiting reader continue. -/
def topologyAnswer (answer : Answer Topology) : Dashboard :=
  match page.topologyRequest with
  | none => page
  | some period =>
      let answered := match answer with
        | .ok topology => page.renderTopology ⟨period, topology⟩
        | _ => page
      let loaded := match answer with
        | .ok _ => true
        | _ => false
      { answered with
        topologyRequest := none
        waiting := []
        ready := page.ready ++ page.waiting.map fun waiter => (waiter, loaded) }

/-- A reading waits for the topology, or it updates the histories and becomes the last one. -/
def updateDashboard (reading : Sent SystemMetrics) : Dashboard :=
  match page.topology with
  | none => { page with pendingData := some reading }.ensureTopology .pending
  | some topology =>
      { page with
        history := updatePipelines topology.value reading page.history
        lastReading := some reading }

/-- The first reading over HTTP is not compared with the session that asked for it. -/
def metricsAnswer (index : Nat) (answer : Answer SystemMetrics) : Dashboard :=
  match page.metricsRequests[index]? with
  | none => page
  | some period =>
      let answered := { page with metricsRequests := page.metricsRequests.eraseIdx index }
      match answer with
      | .ok reading => answered.updateDashboard ⟨period, reading⟩
      | _ => answered

/-- A guarded reader goes on only in the session that sent its request. -/
def owns (session : Option Nat) : Bool := page.active && page.session = session

/-- A new guarded request belongs to the current session. -/
def guardedRequest : GuardedRequest := ⟨page.session, page.period⟩

def fetchAlerts : Dashboard :=
  if page.active then
    { page with alertRequests := page.alertRequests ++ [page.guardedRequest] }
  else page

/-- A failed request for the alerts leaves this note. -/
def alertsUnavailable : Alerts :=
  ⟨true, false, [], some
    "Grafana alerts unavailable: showing the problems derived from the live feed only"⟩

def alertsAnswer (index : Nat) (answer : Answer Alerts) : Dashboard :=
  match page.alertRequests[index]? with
  | none => page
  | some request =>
      let answered := { page with alertRequests := page.alertRequests.eraseIdx index }
      match answer with
      | .refused => answered
      | .failed _ =>
          if page.owns request.session then
            { answered with alerts := some ⟨request.period, alertsUnavailable⟩ }
          else answered
      | .ok alerts =>
          if page.owns request.session then
            { answered with
              alerts := if alerts.configured then some ⟨request.period, alerts⟩ else none }
          else answered

def fetchLinkBases : Dashboard :=
  if page.active then { page with linkRequests := page.linkRequests ++ [page.guardedRequest] }
  else page

/-- No links is the safe answer when the bases cannot be read. -/
def linksAnswer (index : Nat) (answer : Answer LinkBases) : Dashboard :=
  match page.linkRequests[index]? with
  | none => page
  | some request =>
      let answered := { page with linkRequests := page.linkRequests.eraseIdx index }
      match answer with
      | .refused => answered
      | .failed _ =>
          if page.owns request.session then { answered with linkBases := none } else answered
      | .ok bases =>
          if page.owns request.session then
            { answered with
              linkBases := if bases = {} then none else some ⟨request.period, bases⟩ }
          else answered

def fetchRunProgress : Dashboard :=
  if page.active then
    { page with extractionRequests := page.extractionRequests ++ [page.guardedRequest] }
  else page

/-- The runs are kept in their own session, and then their progress waits for the topology. -/
def extractionsAnswer (index : Nat) (answer : Answer (List Run)) : Dashboard :=
  match page.extractionRequests[index]? with
  | none => page
  | some request =>
      let answered := { page with extractionRequests := page.extractionRequests.eraseIdx index }
      match answer with
      | .refused => answered
      | .failed _ =>
          if page.owns request.session then answered.ensureTopology (.progress request.session)
          else answered
      | .ok extractions =>
          if page.owns request.session then
            { answered with runs := (latestRuns extractions).mapValues fun _ run =>
                ⟨request.period, run⟩ }.ensureTopology (.progress request.session)
          else answered

/-- The progress of a finished run is read once, and that of a running one with every poll. -/
def fetchPipelineProgress (session : Option Nat) (page : Dashboard) (pipeline : TopologyPipeline) :
    Dashboard :=
  match page.runs.get? pipeline.id with
  | none => { page with runProgress := page.runProgress.erase pipeline.id }
  | some run =>
      let key := run.value.progressKey
      let known := (page.runProgress.get? pipeline.id).any fun entry =>
        entry.value.key = key ∧ entry.value.data.any truthy
      if key.endedAt.isSome && known then page
      else { page with progressRequests := page.progressRequests ++
        [⟨⟨session, page.period⟩, pipeline.id, key⟩] }

def progressAnswer (index : Nat) (answer : Answer Session.Json) : Dashboard :=
  match page.progressRequests[index]? with
  | none => page
  | some progress =>
      let answered := { page with progressRequests := page.progressRequests.eraseIdx index }
      let entry := match answer with
        | .refused => none
        | .failed error => some ⟨progress.key, none, some error⟩
        | .ok body => some ⟨progress.key, some body, none⟩
      match entry with
      | none => answered
      | some entry =>
          if page.owns progress.request.session then
            { answered with
              runProgress := page.runProgress.set progress.pipeline ⟨progress.request.period, entry⟩ }
          else answered

/-- A reader that waited for the topology continues here. -/
def resume (index : Nat) : Dashboard :=
  match page.ready[index]? with
  | none => page
  | some (waiter, loaded) =>
      let resumed := { page with ready := page.ready.eraseIdx index }
      match waiter with
      | .initial => { resumed with metricsRequests := resumed.metricsRequests ++ [resumed.period] }
      | .pending =>
          match loaded, resumed.pendingData with
          | true, some reading => { resumed with pendingData := none }.updateDashboard reading
          | _, _ => resumed
      | .progress session =>
          match loaded, resumed.topology with
          | true, some topology =>
              topology.value.pipelines.foldl (fetchPipelineProgress session) resumed
          | _, _ => resumed

end Readers

section Socket

variable (page : Dashboard)

/-- The page trades its session for a ticket, unless it has a socket or asks for a ticket. -/
def initializeWebSocket : Dashboard :=
  if page.active && !page.connecting && page.ws.isNone then { page with connecting := true }
  else page

def reconnect : Dashboard :=
  if page.active && !page.reconnectTimer then { page with reconnectTimer := true } else page

/-- A socket belongs to the session that opens it, whichever session asked for its ticket. -/
def ticketAnswer (answer : Answer String) : Dashboard :=
  if page.connecting then
    let answered := { page with connecting := false }
    if page.active then
      match answer with
      | .refused => answered
      | .failed _ => answered.reconnect
      | .ok _ => { answered with ws := some page.period }
    else answered
  else page

/-- Only an open socket delivers frames. -/
def frame (reading : SystemMetrics) : Dashboard :=
  match page.ws with
  | none => page
  | some period => page.updateDashboard ⟨period, reading⟩

def socketClosed (code : Nat) : Dashboard :=
  match page.ws with
  | none => page
  | some _ =>
      let closed := { page with history := Dict.empty }
      if page.active then
        let gone := { closed with ws := none }
        if code = 4401 then gone else gone.reconnect
      else closed

def reconnectTick : Dashboard :=
  if page.reconnectTimer then { page with reconnectTimer := false }.initializeWebSocket else page

end Socket

section Lifecycle

variable (page : Dashboard)

/-- The same session resumes with a reconnect, and another one fetches everything afresh. -/
def start (session : Option Nat) : Dashboard :=
  if session = none then page
  else if page.active && page.session = session then page.reconnect
  else
    let started := { page with
      session := session
      active := true
      period := page.period + 1 }
    ((((started.ensureTopology .initial).initializeWebSocket).fetchAlerts).fetchRunProgress).fetchLinkBases

def stop : Dashboard :=
  { page with
    active := false
    session := none
    topology := none
    pendingData := none
    history := Dict.empty
    runs := Dict.empty
    runProgress := Dict.empty
    lastReading := none
    alerts := none
    reconnectTimer := false
    ws := none }

def step : DashboardInput → Dashboard
  | .start session => page.start session
  | .stop => page.stop
  | .topologyAnswer answer => page.topologyAnswer answer
  | .metricsAnswer index answer => page.metricsAnswer index answer
  | .alertsAnswer index answer => page.alertsAnswer index answer
  | .linksAnswer index answer => page.linksAnswer index answer
  | .extractionsAnswer index answer => page.extractionsAnswer index answer
  | .progressAnswer index answer => page.progressAnswer index answer
  | .resume index => page.resume index
  | .ticketAnswer answer => page.ticketAnswer answer
  | .frame reading => page.frame reading
  | .socketClosed code => page.socketClosed code
  | .reconnectTick => page.reconnectTick
  | .alertsTick => page.fetchAlerts
  | .progressTick => page.fetchRunProgress

end Lifecycle

end Dashboard

/-- The page after the steps of a history, the newest first. -/
def dashboardAfter (history : List DashboardInput) : Dashboard := after Dashboard.step {} history

end OperationsConsole.Browser
