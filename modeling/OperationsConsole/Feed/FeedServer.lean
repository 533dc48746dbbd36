/-
This file proves what the server has sent on each socket of the feed.
The events of a socket have increasing numbers, and at most one backlog splits them.
-/

import OperationsConsole.Feed.EventFeed

namespace OperationsConsole

open Library Browser

def Increasing (events : List Event) : Prop :=
  events.Pairwise fun first second => first.id < second.id

/-- The events that the collection loop may still broadcast. -/
def Broadcast.upcoming : Broadcast → List Event
  | .idle => []
  | .pending events => events
  | .sending event _ _ rest => event :: rest

def Broadcast.targets : Broadcast → List Nat
  | .sending _ targets _ _ => targets
  | _ => []

/-- The events that the collection loop may still send to one socket. -/
def Broadcast.upcomingFor (broadcast : Broadcast) (id : Nat) : List Event :=
  match broadcast with
  | .idle => []
  | .pending events => events
  | .sending event targets _ rest => if id ∈ targets then event :: rest else rest

/-- What is still to be sent to a client is part of what is to be sent. -/
theorem Broadcast.upcomingFor_sublist (broadcast : Broadcast) (id : Nat) :
    (broadcast.upcomingFor id).Sublist broadcast.upcoming := by
  cases broadcast with
  | idle => exact List.Sublist.refl _
  | pending events => exact List.Sublist.refl _
  | sending event targets failed rest =>
      unfold upcomingFor upcoming
      dsimp only
      split
      · exact List.Sublist.refl _
      · exact List.sublist_cons_self _ _

/-- A send that ends leaves no more to come for any socket. -/
theorem Broadcast.upcomingFor_filter (event : Event) (targets failed more : List Nat)
    (rest : List Event) (id other : Nat) :
    ((sending event (targets.filter fun target => target ≠ id) more rest).upcomingFor other).Sublist
      ((sending event targets failed rest).upcomingFor other) := by
  unfold upcomingFor
  dsimp only
  split
  · rename_i member
    rw [if_pos (List.mem_of_mem_filter member)]
  · split
    · exact List.sublist_cons_self _ _
    · exact List.Sublist.refl _

/-- A backlog holds the ring of its readings and splits the events that were observed before it
from those that are observed later or that it covers. -/
structure BacklogFits (config : DetectorConfig) (before : List Frame)
    (readings : List SystemMetrics) (events : List Event) (later : List Frame) : Prop where
  ring : events = lastOf config.capacity (producedEvents config readings)
  only : ∀ other taken, .backlog other taken ∉ later
  earlier : ∀ event ∈ frameEvents before, event ∈ producedEvents config readings
  placed : ∀ event ∈ frameEvents later, event ∈ producedEvents config readings ∨
    (producedEvents config readings).length < event.id

structure SentFits (config : DetectorConfig) (sent : List Frame) : Prop where
  increasing : Increasing (frameEvents sent)
  positive : ∀ event ∈ frameEvents sent, 0 < event.id
  backlog : ∀ before readings events later, sent = before ++ .backlog readings events :: later →
    BacklogFits config before readings events later

section Sent

variable (config : DetectorConfig) (sent : List Frame)

/-- The events of frames are those of their parts. -/
theorem frameEvents_append (more : List Frame) :
    frameEvents (sent ++ more) = frameEvents sent ++ frameEvents more := List.filterMap_append

theorem SentFits.nil : SentFits config [] := by
  refine ⟨List.Pairwise.nil, by simp [frameEvents], ?_⟩
  intro before readings events later split
  simp at split

/-- A prefix of the frames of a socket fits as well. -/
theorem SentFits.initial (part : List Frame) (fits : SentFits config sent) (begins : part <+: sent) :
    SentFits config part := by
  obtain ⟨rest, whole⟩ := begins
  have longer : frameEvents sent = frameEvents part ++ frameEvents rest := by
    rw [← whole, frameEvents_append]
  refine ⟨?_, ?_, ?_⟩
  · have increasing := fits.increasing
    rw [longer] at increasing
    exact (List.pairwise_append.mp increasing).1
  · intro event member
    apply fits.positive
    rw [longer]
    exact List.mem_append_left _ member
  · intro before readings events later split
    rw [split, List.append_assoc, List.cons_append] at whole
    have backlog := fits.backlog before readings events (later ++ rest) whole.symm
    refine ⟨backlog.ring, ?_, backlog.earlier, ?_⟩
    · intro other taken member
      exact backlog.only other taken (List.mem_append_left _ member)
    · intro event member
      apply backlog.placed
      rw [frameEvents_append]
      exact List.mem_append_left _ member

/-- The frames fit after an event that is placed behind every backlog. -/
theorem SentFits.push_event (event : Event) (fits : SentFits config sent)
    (increasing : Increasing (frameEvents sent ++ [event])) (positive : 0 < event.id)
    (placed : ∀ readings events, .backlog readings events ∈ sent →
      event ∈ producedEvents config readings ∨
        (producedEvents config readings).length < event.id) :
    SentFits config (sent ++ [.event event]) := by
  have longer : frameEvents (sent ++ [.event event]) = frameEvents sent ++ [event] :=
    frameEvents_append sent [.event event]
  refine ⟨by rw [longer]; exact increasing, ?_, ?_⟩
  · intro other member
    rw [longer, List.mem_append, List.mem_singleton] at member
    rcases member with member | same
    · exact fits.positive other member
    · rw [same]
      exact positive
  · intro before readings events later split
    rcases concat_eq_split sent before later _ _ split with ⟨_, _, same⟩ | ⟨rest, tail, inner⟩
    · simp at same
    · have backlog := fits.backlog before readings events rest inner
      have known : .backlog readings events ∈ sent := by
        rw [inner]
        simp
      refine ⟨backlog.ring, ?_, backlog.earlier, ?_⟩
      · intro other taken member
        rw [tail, List.mem_append, List.mem_singleton] at member
        rcases member with member | same
        · exact backlog.only other taken member
        · simp at same
      · intro other member
        rw [tail, frameEvents_append, List.mem_append] at member
        rcases member with member | member
        · exact backlog.placed other member
        · rw [List.mem_singleton.mp member]
          exact placed readings events known

/-- The frames fit after their first backlog when it covers every event before it. -/
theorem SentFits.push_backlog (readings : List SystemMetrics) (events : List Event)
    (fits : SentFits config sent)
    (first : ∀ other taken, .backlog other taken ∉ sent)
    (ring : events = lastOf config.capacity (producedEvents config readings))
    (earlier : ∀ event ∈ frameEvents sent, event ∈ producedEvents config readings) :
    SentFits config (sent ++ [.backlog readings events]) := by
  have same : frameEvents (sent ++ [.backlog readings events]) = frameEvents sent := by
    rw [frameEvents_append]
    exact List.append_nil _
  refine ⟨by rw [same]; exact fits.increasing, by rw [same]; exact fits.positive, ?_⟩
  intro before other taken later split
  rcases concat_eq_split sent before later _ _ split with ⟨tail, start, mark⟩ | ⟨rest, _, inner⟩
  · rw [Frame.backlog.injEq] at mark
    rw [tail, start, mark.1, mark.2]
    exact ⟨ring, by simp, earlier, by simp [frameEvents]⟩
  · exfalso
    apply first other taken
    rw [inner]
    simp

end Sent

/-- A registered socket has received events in order, and the loop continues behind them. -/
structure SocketHears (config : DetectorConfig) (readings : List SystemMetrics)
    (upcoming : List Event) (sent : List Frame) : Prop where
  increasing : Increasing (frameEvents sent ++ upcoming)
  produced : ∀ event ∈ frameEvents sent, event ∈ producedEvents config readings
  backlogs : ∀ older events, .backlog older events ∈ sent → older <:+ readings

def SocketStage.alive (stage : SocketStage) : Prop := stage = .registered ∨ stage = .served

structure FeedSocketFits (config : DetectorConfig) (feed : Feed) (id : Nat) (socket : FeedSocket) :
    Prop where
  fits : SentFits config socket.sent
  opened : socket.stage = .opened → socket.sent = []
  registered : socket.stage = .registered → ∀ readings events,
    .backlog readings events ∉ socket.sent
  alive : socket.stage.alive →
    SocketHears config feed.readings (feed.broadcast.upcomingFor id) socket.sent

/-- A socket that receives the next event waits for the rest of the events. -/
theorem SocketHears.push_event (config : DetectorConfig) (readings : List SystemMetrics)
    (event : Event) (rest : List Event) (sent : List Frame)
    (hears : SocketHears config readings (event :: rest) sent)
    (produced : event ∈ producedEvents config readings) :
    SocketHears config readings rest (sent ++ [.event event]) := by
  have longer : frameEvents (sent ++ [.event event]) = frameEvents sent ++ [event] :=
    frameEvents_append sent [.event event]
  refine ⟨?_, ?_, ?_⟩
  · rw [longer, List.append_assoc]
    exact hears.increasing
  · intro other member
    rw [longer, List.mem_append, List.mem_singleton] at member
    rcases member with member | same
    · exact hears.produced other member
    · rw [same]
      exact produced
  · intro older events member
    rw [List.mem_append, List.mem_singleton] at member
    rcases member with member | same
    · exact hears.backlogs older events member
    · simp at same

/-- A live socket fits after the event that it waits for. -/
theorem FeedSocketFits.push_event (config : DetectorConfig) (feed later : Feed) (id : Nat)
    (socket : FeedSocket) (event : Event) (rest : List Event)
    (known : FeedSocketFits config feed id socket) (alive : socket.stage.alive)
    (hears : SocketHears config feed.readings (event :: rest) socket.sent)
    (produced : event ∈ producedEvents config feed.readings)
    (readings : later.readings = feed.readings)
    (upcoming : later.broadcast.upcomingFor id = rest) :
    FeedSocketFits config later id ⟨socket.stage, socket.sent ++ [.event event]⟩ := by
  refine ⟨?_, ?_, ?_, ?_⟩
  · apply known.fits.push_event
    · exact List.Pairwise.sublist ((List.Sublist.refl _).append (by simp)) hears.increasing
    · exact producedEvents_positive config feed.readings event produced
    · intro older events member
      exact producedEvents_later config feed.readings older (hears.backlogs older events member)
        event produced
  · intro unopened
    exfalso
    rcases alive with stage | stage <;> simp [stage] at unopened
  · intro stage older events member
    rw [List.mem_append, List.mem_singleton] at member
    rcases member with member | same
    · exact known.registered stage older events member
    · simp at same
  · intro _
    rw [readings, upcoming]
    exact hears.push_event config feed.readings event rest socket.sent produced

/-- These facts hold of the server and of its sockets after every step. -/
structure ServerFits (config : DetectorConfig) (feed : Feed) : Prop where
  detector : feed.detector = detectorAfter config feed.readings
  increasing : Increasing feed.broadcast.upcoming
  produced : ∀ event ∈ feed.broadcast.upcoming, event ∈ producedEvents config feed.readings
  connected : ∀ id ∈ feed.connections ++ feed.broadcast.targets, ∃ socket,
    feed.sockets.get? id = some socket ∧ socket.stage.alive
  fresh : ∀ id socket, feed.sockets.get? id = some socket → id < feed.opened
  sockets : ∀ id socket, feed.sockets.get? id = some socket → FeedSocketFits config feed id socket

/-- Two states of the feed have the same detector, the same readings, and the same sockets. -/
structure SameServer (feed later : Feed) : Prop where
  detector : later.detector = feed.detector
  readings : later.readings = feed.readings
  sockets : later.sockets = feed.sockets
  opened : later.opened = feed.opened

section Step

variable (config : DetectorConfig) (feed : Feed)

/-- A step that only gives up connections and broadcasts keeps the server explained. -/
theorem server_of_fewer (later : Feed) (fits : ServerFits config feed)
    (same : SameServer feed later)
    (upcoming : later.broadcast.upcoming.Sublist feed.broadcast.upcoming)
    (fewer : ∀ id, (later.broadcast.upcomingFor id).Sublist (feed.broadcast.upcomingFor id))
    (connected : ∀ id ∈ later.connections ++ later.broadcast.targets,
      id ∈ feed.connections ++ feed.broadcast.targets) : ServerFits config later := by
  refine ⟨?_, fits.increasing.sublist upcoming, ?_, ?_, ?_, ?_⟩
  · rw [same.detector, same.readings]
    exact fits.detector
  · intro event member
    rw [same.readings]
    exact fits.produced event (upcoming.subset member)
  · intro id member
    rw [same.sockets]
    exact fits.connected id (connected id member)
  · intro id socket found
    rw [same.sockets] at found
    rw [same.opened]
    exact fits.fresh id socket found
  · intro id socket found
    rw [same.sockets] at found
    have known := fits.sockets id socket found
    refine ⟨known.fits, known.opened, known.registered, ?_⟩
    intro alive
    have hears := known.alive alive
    rw [same.readings]
    refine ⟨hears.increasing.sublist ?_, hears.produced, hears.backlogs⟩
    exact (List.Sublist.refl _).append (fewer id)

/-- A step of the browser keeps the server explained. -/
theorem server_of_browser (later : Feed) (fits : ServerFits config feed)
    (same : SameServer feed later) (broadcast : later.broadcast = feed.broadcast)
    (connections : later.connections = feed.connections) : ServerFits config later := by
  apply server_of_fewer config feed later fits same
  · rw [broadcast]
  · intro id
    rw [broadcast]
  · intro id member
    rw [broadcast, connections] at member
    exact member

/-- An observation keeps the server in step with its log. -/
theorem observe_server (metrics : SystemMetrics) (fits : ServerFits config feed) :
    ServerFits config (feed.observe config metrics) := by
  rcases feed.observe_cases config metrics with same | ⟨phase, same⟩
  · rw [same]
    exact fits
  · rw [same]
    have next : (observe config feed.detector metrics).state =
        detectorAfter config (metrics :: feed.readings) := by
      rw [fits.detector]
      rfl
    have produced : producedEvents config (metrics :: feed.readings) =
        producedEvents config feed.readings ++ (observe config feed.detector metrics).events := by
      rw [fits.detector]
      rfl
    have increasing := producedEvents_increasing config (metrics :: feed.readings)
    rw [produced, List.pairwise_append] at increasing
    obtain ⟨_, ordered, across⟩ := increasing
    refine ⟨next, ordered, ?_, ?_, fits.fresh, ?_⟩
    · intro event member
      rw [produced]
      exact List.mem_append_right _ member
    · intro id member
      apply fits.connected id
      rw [phase]
      exact member
    · intro id socket found
      have known := fits.sockets id socket found
      refine ⟨known.fits, known.opened, known.registered, ?_⟩
      intro alive
      have hears := known.alive alive
      refine ⟨?_, ?_, ?_⟩
      · refine List.pairwise_append.mpr ⟨known.fits.increasing, ordered, ?_⟩
        intro old member new emitted
        exact across old (hears.produced old member) new emitted
      · intro event member
        rw [produced]
        exact List.mem_append_left _ (hears.produced event member)
      · intro older events member
        exact (hears.backlogs older events member).trans (List.suffix_cons _ _)

/-- A broadcast that is given up keeps the server in step with its log. -/
theorem abort_server (fits : ServerFits config feed) :
    ServerFits config { feed with broadcast := .idle } := by
  apply server_of_fewer config feed _ fits
  · exact ⟨rfl, rfl, rfl, rfl⟩
  · exact List.nil_sublist _
  · intro id
    exact List.nil_sublist _
  · intro id member
    exact List.mem_append_left _ (by simpa [Broadcast.targets] using member)

/-- The next part of a broadcast keeps the server in step with its log. -/
theorem proceed_server (fits : ServerFits config feed) : ServerFits config feed.proceed := by
  rcases feed.proceed_cases with same | ⟨_, _, _, same⟩ | ⟨event, rest, phase, _, same⟩ |
    ⟨event, failed, rest, phase, same⟩
  · rw [same]
    exact fits
  · rw [same]
    exact abort_server config feed fits
  · rw [same]
    apply server_of_fewer config feed _ fits
    · exact ⟨rfl, rfl, rfl, rfl⟩
    · rw [phase]
      exact List.Sublist.refl _
    · intro id
      rw [phase]
      exact Broadcast.upcomingFor_sublist (.sending event feed.connections [] rest) id
    · intro id member
      apply List.mem_append_left
      simpa [Broadcast.targets] using member
  · rw [same]
    apply server_of_fewer config feed _ fits
    · exact ⟨rfl, rfl, rfl, rfl⟩
    · rw [phase]
      exact List.sublist_cons_self _ _
    · intro id
      rw [phase]
      exact List.Sublist.refl _
    · intro id member
      apply List.mem_append_left
      simp only [Broadcast.targets, List.append_nil, List.mem_filter] at member
      exact member.1

/-- A step that sets one socket and gives the others nothing new keeps the server explained. -/
theorem server_of_set (later : Feed) (id : Nat) (socket : FeedSocket) (fits : ServerFits config feed)
    (detector : later.detector = feed.detector ∧ later.readings = feed.readings)
    (sockets : later.sockets = feed.sockets.set id socket)
    (opened : feed.opened ≤ later.opened ∧ id < later.opened)
    (upcoming : later.broadcast.upcoming.Sublist feed.broadcast.upcoming)
    (fewer : ∀ other, other ≠ id →
      (later.broadcast.upcomingFor other).Sublist (feed.broadcast.upcomingFor other))
    (connected : ∀ other ∈ later.connections ++ later.broadcast.targets,
      other ∈ feed.connections ++ feed.broadcast.targets ∨ other = id)
    (alive : id ∈ later.connections ++ later.broadcast.targets → socket.stage.alive)
    (known : FeedSocketFits config later id socket) : ServerFits config later := by
  refine ⟨?_, fits.increasing.sublist upcoming, ?_, ?_, ?_, ?_⟩
  · rw [detector.1, detector.2]
    exact fits.detector
  · intro event member
    rw [detector.2]
    exact fits.produced event (upcoming.subset member)
  · intro other member
    rw [sockets, Dict.get?_set]
    split
    · rename_i same
      rw [same] at member
      exact ⟨socket, rfl, alive member⟩
    · rename_i different
      rcases connected other member with old | same
      · exact fits.connected other old
      · exact absurd same different
  · intro other found stored
    rw [sockets] at stored
    rcases Dict.get?_of_set _ _ _ _ _ stored with ⟨same, _⟩ | ⟨_, old⟩
    · rw [same]
      exact opened.2
    · exact Nat.lt_of_lt_of_le (fits.fresh other found old) opened.1
  · intro other found stored
    rw [sockets, Dict.get?_set] at stored
    split at stored
    · rename_i same
      rw [Option.some.injEq] at stored
      rw [same, ← stored]
      exact known
    · rename_i different
      have old := fits.sockets other found stored
      refine ⟨old.fits, old.opened, old.registered, ?_⟩
      intro stage
      have hears := old.alive stage
      rw [detector.2]
      refine ⟨hears.increasing.sublist ?_, hears.produced, hears.backlogs⟩
      exact (List.Sublist.refl _).append (fewer other different)

/-- A frame that is sent keeps the server in step with its log. -/
theorem send_server (id : Nat) (delivered succeeded : Bool) (fits : ServerFits config feed) :
    ServerFits config (feed.send id delivered succeeded) := by
  rcases feed.send_cases id delivered succeeded with
    same | ⟨event, targets, failed, rest, phase, targeted, same⟩
  · rw [same]
    exact fits
  rw [same]
  have narrower : ∀ other more, ((Broadcast.sending event
      (targets.filter fun other => other ≠ id) more rest).upcomingFor other).Sublist
        (feed.broadcast.upcomingFor other) := by
    intro other more
    rw [phase]
    exact Broadcast.upcomingFor_filter event targets failed more rest id other
  have connected : ∀ other ∈ feed.connections ++ targets.filter (fun other => other ≠ id),
      other ∈ feed.connections ++ feed.broadcast.targets := by
    intro other member
    rw [phase]
    rw [List.mem_append] at member ⊢
    exact member.imp_right List.mem_of_mem_filter
  cases delivered with
  | false =>
      apply server_of_fewer config feed _ fits
      · exact ⟨rfl, rfl, rfl, rfl⟩
      · rw [phase]
        exact List.Sublist.refl _
      · intro other
        exact narrower other _
      · exact connected
  | true =>
      obtain ⟨socket, stored, alive⟩ := fits.connected id (by
        rw [phase]
        exact List.mem_append_right _ targeted)
      have known := fits.sockets id socket stored
      have hears := known.alive alive
      rw [phase, Broadcast.upcomingFor, if_pos targeted] at hears
      have produced := fits.produced event (by
        rw [phase]
        exact List.mem_cons_self)
      rw [if_pos rfl, feed.push_stored id _ socket stored]
      apply server_of_set config feed _ id ⟨socket.stage, socket.sent ++ [.event event]⟩ fits
      · exact ⟨rfl, rfl⟩
      · rfl
      · exact ⟨Nat.le_refl _, fits.fresh id socket stored⟩
      · rw [phase]
        exact List.Sublist.refl _
      · intro other _
        exact narrower other _
      · intro other member
        exact .inl (connected other member)
      · intro _
        exact alive
      · apply FeedSocketFits.push_event config feed _ id socket event rest known alive hears
          produced
        · rfl
        · unfold Broadcast.upcomingFor
          dsimp only
          rw [if_neg (by simp)]

/-- A client that registers keeps the server in step with its log. -/
theorem register_server (id : Nat) (fits : ServerFits config feed) :
    ServerFits config (feed.register id) := by
  rcases feed.register_cases id with same | ⟨socket, stored, unopened, same⟩
  · rw [same]
    exact fits
  rw [same]
  have known := fits.sockets id socket stored
  have empty := known.opened unopened
  apply server_of_set config feed _ id ⟨.registered, socket.sent⟩ fits
  · exact ⟨rfl, rfl⟩
  · rfl
  · exact ⟨Nat.le_refl _, fits.fresh id socket stored⟩
  · exact List.Sublist.refl _
  · intro other _
    exact List.Sublist.refl _
  · intro other member
    simp only [List.mem_append, List.mem_singleton] at member ⊢
    tauto
  · intro _
    exact .inl rfl
  · rw [empty]
    refine ⟨SentFits.nil config, by simp, by simp, ?_⟩
    intro _
    refine ⟨?_, by simp [frameEvents], by simp⟩
    exact fits.increasing.sublist (feed.broadcast.upcomingFor_sublist id)

/-- A backlog that is sent keeps the server in step with its log. -/
theorem sendBacklog_server (id : Nat) (fits : ServerFits config feed) :
    ServerFits config (feed.sendBacklog id) := by
  rcases feed.sendBacklog_cases id with unchanged | ⟨socket, stored, registered, changed⟩
  · rw [unchanged]
    exact fits
  rw [changed]
  have known := fits.sockets id socket stored
  have hears := known.alive (.inl registered)
  have first := known.registered registered
  have same : frameEvents (socket.sent ++ [.backlog feed.readings feed.detector.backlog]) =
      frameEvents socket.sent := by
    rw [frameEvents_append]
    exact List.append_nil _
  apply server_of_set config feed _ id _ fits
  · exact ⟨rfl, rfl⟩
  · rfl
  · exact ⟨Nat.le_refl _, fits.fresh id socket stored⟩
  · exact List.Sublist.refl _
  · intro other _
    exact List.Sublist.refl _
  · intro other member
    exact .inl member
  · intro _
    exact .inr rfl
  · refine ⟨?_, by simp, by simp, ?_⟩
    · apply known.fits.push_backlog
      · exact first
      · rw [Detector.backlog, fits.detector]
        exact (detectorAfter_ring config feed.readings).ring
      · exact hears.produced
    · intro _
      refine ⟨?_, ?_, ?_⟩
      · rw [same]
        exact hears.increasing
      · rw [same]
        exact hears.produced
      · intro older events member
        rw [List.mem_append, List.mem_singleton] at member
        rcases member with member | added
        · exact absurd member (first older events)
        · rw [Frame.backlog.injEq] at added
          have current : older = feed.readings := added.1
          subst current
          exact List.suffix_rfl

/-- A restart leaves a server without clients. -/
theorem restart_server (fits : ServerFits config feed) : ServerFits config feed.restart := by
  have stored : ∀ id socket, feed.restart.sockets.get? id = some socket →
      ∃ old, feed.sockets.get? id = some old ∧ socket.sent = old.sent ∧
        (socket.stage = .opened ∧ old.stage = .opened ∨ socket.stage = .gone) := by
    intro id socket found
    unfold Feed.restart at found
    dsimp only at found
    rw [Dict.get?_mapValues, Option.map_eq_some_iff] at found
    obtain ⟨old, known, same⟩ := found
    refine ⟨old, known, ?_⟩
    split at same
    · rename_i unopened
      rw [← same]
      exact ⟨rfl, .inl ⟨unopened, unopened⟩⟩
    · rw [← same]
      exact ⟨rfl, .inr rfl⟩
  refine ⟨rfl, List.Pairwise.nil, by simp [Feed.restart, Broadcast.upcoming],
    by simp [Feed.restart, Broadcast.targets], ?_, ?_⟩
  · intro id socket found
    obtain ⟨old, known, _⟩ := stored id socket found
    exact fits.fresh id old known
  · intro id socket found
    obtain ⟨old, known, sent, stage⟩ := stored id socket found
    have before := fits.sockets id old known
    refine ⟨?_, ?_, ?_, ?_⟩
    · rw [sent]
      exact before.fits
    · intro unopened
      rcases stage with ⟨_, opened⟩ | gone
      · rw [sent]
        exact before.opened opened
      · simp [gone] at unopened
    · intro registered
      rcases stage with ⟨opened, _⟩ | gone
      · simp [opened] at registered
      · simp [gone] at registered
    · intro alive
      exfalso
      rcases stage with ⟨opened, _⟩ | gone
      · rcases alive with alive | alive <;> simp [opened] at alive
      · rcases alive with alive | alive <;> simp [gone] at alive

/-- A socket that opens keeps the server in step with its log. -/
theorem openSocket_server (own : Bool) (fits : ServerFits config feed) :
    ServerFits config (feed.openSocket own) := by
  have unused : feed.opened ∉ feed.connections ++ feed.broadcast.targets := by
    intro member
    obtain ⟨socket, stored, _⟩ := fits.connected feed.opened member
    have earlier := fits.fresh feed.opened socket stored
    omega
  have opened : ServerFits config { feed with
      sockets := feed.sockets.set feed.opened {}
      opened := feed.opened + 1 } := by
    apply server_of_set config feed _ feed.opened {} fits
    · exact ⟨rfl, rfl⟩
    · rfl
    · exact ⟨Nat.le_succ _, Nat.lt_succ_self _⟩
    · exact List.Sublist.refl _
    · intro other _
      exact List.Sublist.refl _
    · intro other member
      exact .inl member
    · intro member
      exact absurd member unused
    · refine ⟨SentFits.nil config, by simp, by simp, ?_⟩
      intro alive
      rcases alive with alive | alive <;> simp at alive
  cases own with
  | true => exact server_of_browser config _ _ opened ⟨rfl, rfl, rfl, rfl⟩ rfl rfl
  | false => exact opened

/-- A client that leaves keeps the server in step with its log. -/
theorem leave_server (id : Nat) (fits : ServerFits config feed) :
    ServerFits config (feed.leave id) := by
  apply server_of_fewer config feed _ fits
  · exact ⟨rfl, rfl, rfl, rfl⟩
  · exact List.Sublist.refl _
  · intro other
    exact List.Sublist.refl _
  · intro other member
    rw [List.mem_append] at member ⊢
    exact member.imp_left List.mem_of_mem_filter

/-- A frame that arrives keeps the server in step with its log. -/
theorem deliver_server (fits : ServerFits config feed) : ServerFits config feed.deliver := by
  obtain ⟨log, held, received, same⟩ := feed.deliver_view
  rw [same]
  exact server_of_browser config feed _ fits ⟨rfl, rfl, rfl, rfl⟩ rfl rfl

/-- Every step keeps the server and its sockets explained. -/
theorem step_server (input : FeedInput) (fits : ServerFits config feed) :
    ServerFits config (feed.step config input) := by
  cases input with
  | observe metrics => exact observe_server config feed metrics fits
  | proceed => exact proceed_server config feed fits
  | send id delivered succeeded => exact send_server config feed id delivered succeeded fits
  | abort => exact abort_server config feed fits
  | register id => exact register_server config feed id fits
  | sendBacklog id => exact sendBacklog_server config feed id fits
  | leave id => exact leave_server config feed id fits
  | restart => exact restart_server config feed fits
  | openSocket own => exact openSocket_server config feed own fits
  | close => exact server_of_browser config feed _ fits ⟨rfl, rfl, rfl, rfl⟩ rfl rfl
  | deliver => exact deliver_server config feed fits
  | note message time type =>
      exact server_of_browser config feed _ fits ⟨rfl, rfl, rfl, rfl⟩ rfl rfl
  | audit entries => exact server_of_browser config feed _ fits ⟨rfl, rfl, rfl, rfl⟩ rfl rfl
  | stop => exact server_of_browser config feed _ fits ⟨rfl, rfl, rfl, rfl⟩ rfl rfl

end Step

end OperationsConsole
