/-
This file embeds the event feed from the collection loop to one browser.
Broadcasts, registrations, backlogs, restarts, and reconnects may run in any order.
-/

import OperationsConsole.Browser.ActivityLog
import OperationsConsole.Events.EventRing

namespace OperationsConsole

open Library Browser

/-- The application gives the detector its queues and leaves the capacity at its default. -/
def appDetector (deadLetterQueues workQueues : List String)
    (queueOwners : Dict String (String × String)) : DetectorConfig :=
  { deadLetterQueues := deadLetterQueues, workQueues := workQueues, queueOwners := queueOwners }

/-- A frame carries the backlog or one event. A backlog frame also records the readings that the
server had observed when the backlog was taken. -/
inductive Frame where
  | backlog (readings : List SystemMetrics) (events : List Event)
  | event (event : Event)

def Frame.event? : Frame → Option Event
  | .backlog _ _ => none
  | .event news => some news

/-- The events of the frames in their order. -/
def frameEvents (frames : List Frame) : List Event := frames.filterMap Frame.event?

/-- The server has not registered an opened socket, and a restart leaves the others behind. -/
inductive SocketStage where
  | opened
  | registered
  | served
  | gone
  deriving DecidableEq

/-- The frames of a socket are kept in the order in which their sends were called. -/
structure FeedSocket where
  stage : SocketStage := .opened
  sent : List Frame := []

/-- The collection loop has events to broadcast, or it waits for the sends of one event. -/
inductive Broadcast where
  | idle
  | pending (events : List Event)
  | sending (event : Event) (targets failed : List Nat) (rest : List Event)

/-- The feed holds the server, the sockets, and one browser. The last three fields record the run:
the readings since the last restart, the frames that the browser received on its socket, and the
server events that it holds. -/
structure Feed where
  detector : Detector := {}
  broadcast : Broadcast := .idle
  connections : List Nat := []
  sockets : Dict Nat FeedSocket := Dict.empty
  opened : Nat := 0
  socket : Option Nat := none
  log : ActivityLog := {}
  readings : List SystemMetrics := []
  received : List Frame := []
  held : List Event := []

/-- One step of the server, of the network, or of the browser. -/
inductive FeedInput where
  | observe (metrics : SystemMetrics)
  | proceed
  | send (id : Nat) (delivered succeeded : Bool)
  | abort
  | register (id : Nat)
  | sendBacklog (id : Nat)
  | leave (id : Nat)
  | restart
  | openSocket (own : Bool)
  | close
  | deliver
  | note (message : String) (time : Seconds) (type : Level)
  | audit (entries : List LogEntry)
  | stop

namespace Feed

section Step

variable (config : DetectorConfig)

/-- The loop observes a reading when it has nothing left to broadcast. -/
def observe (feed : Feed) (metrics : SystemMetrics) : Feed :=
  match feed.broadcast with
  | .idle =>
      let observation := OperationsConsole.observe config feed.detector metrics
      { feed with
        detector := observation.state
        broadcast := .pending observation.events
        readings := metrics :: feed.readings }
  | _ => feed

/-- A broadcast takes its targets from the connections, and without any it ends at once. -/
def broadcastEvents (feed : Feed) : List Event → Feed
  | [] => { feed with broadcast := .idle }
  | event :: rest =>
      if feed.connections = [] then { feed with broadcast := .idle }
      else { feed with broadcast := .sending event feed.connections [] rest }

/-- The next broadcast starts, or the finished one drops the sockets whose sends failed. -/
def proceed (feed : Feed) : Feed :=
  match feed.broadcast with
  | .idle => feed
  | .pending events => feed.broadcastEvents events
  | .sending _ targets failed rest =>
      if targets = [] then
        { feed with
          broadcast := .pending rest
          connections := feed.connections.filter fun id => id ∉ failed }
      else feed

/-- The call of a send appends a frame to its socket. -/
def push (feed : Feed) (id : Nat) (frame : Frame) : Feed :=
  match feed.sockets.get? id with
  | none => feed
  | some socket =>
      { feed with sockets := feed.sockets.set id { socket with sent := socket.sent ++ [frame] } }

/-- A send to a target may fail before or after its frame is on the socket. -/
def send (feed : Feed) (id : Nat) (delivered succeeded : Bool) : Feed :=
  match feed.broadcast with
  | .sending event targets failed rest =>
      if id ∈ targets then
        let sent := if delivered then feed.push id (.event event) else feed
        let failed := if delivered && succeeded then failed else id :: failed
        { sent with
          broadcast := .sending event (targets.filter fun other => other ≠ id) failed rest }
      else feed
  | _ => feed

/-- The endpoint adds its socket to the connections before it sends the backlog. -/
def register (feed : Feed) (id : Nat) : Feed :=
  match feed.sockets.get? id with
  | some socket =>
      if socket.stage = .opened then
        { feed with
          connections := feed.connections ++ [id]
          sockets := feed.sockets.set id { socket with stage := .registered } }
      else feed
  | none => feed

/-- The endpoint reads the ring and calls the send of the backlog in one step. -/
def sendBacklog (feed : Feed) (id : Nat) : Feed :=
  match feed.sockets.get? id with
  | some socket =>
      if socket.stage = .registered then
        let frame := Frame.backlog feed.readings feed.detector.backlog
        { feed with
          sockets := feed.sockets.set id ⟨.served, socket.sent ++ [frame]⟩ }
      else feed
  | none => feed

def leave (feed : Feed) (id : Nat) : Feed :=
  { feed with connections := feed.connections.filter fun other => other ≠ id }

/-- A restarted server has a new detector and knows none of the registered sockets. -/
def restart (feed : Feed) : Feed :=
  { feed with
    detector := {}
    broadcast := .idle
    connections := []
    sockets := feed.sockets.mapValues fun _ socket =>
      if socket.stage = .opened then socket else { socket with stage := .gone }
    readings := [] }

/-- The browser replaces its socket, and other browsers open theirs. -/
def openSocket (feed : Feed) (own : Bool) : Feed :=
  let opened := { feed with
    sockets := feed.sockets.set feed.opened {}
    opened := feed.opened + 1 }
  if own then { opened with socket := some feed.opened, received := [] } else opened

/-- The browser hears no frame of a closed socket. -/
def close (feed : Feed) : Feed := { feed with socket := none, received := [] }

/-- The browser handles one frame. -/
def handleMessage (feed : Feed) (frame : Frame) : Feed :=
  match frame with
  | .backlog _ events =>
      { feed with log := feed.log.applyEventBacklog events, held := events }
  | .event event =>
      { feed with
        log := feed.log.applyServerEvent event
        held := if feed.log.covers event then feed.held else feed.held ++ [event] }

/-- The frames of the open socket arrive in their order. -/
def deliver (feed : Feed) : Feed :=
  match feed.socket.bind feed.sockets.get? with
  | none => feed
  | some socket =>
      match socket.sent[feed.received.length]? with
      | none => feed
      | some frame => { feed.handleMessage frame with received := feed.received ++ [frame] }

def step (feed : Feed) : FeedInput → Feed
  | .observe metrics => feed.observe config metrics
  | .proceed => feed.proceed
  | .send id delivered succeeded => feed.send id delivered succeeded
  | .abort => { feed with broadcast := .idle }
  | .register id => feed.register id
  | .sendBacklog id => feed.sendBacklog id
  | .leave id => feed.leave id
  | .restart => feed.restart
  | .openSocket own => feed.openSocket own
  | .close => feed.close
  | .deliver => feed.deliver
  | .note message time type => { feed with log := feed.log.addLogEntry ⟨time, message, type, .local⟩ }
  | .audit entries => { feed with log := feed.log.replaceLogSource .audit entries }
  | .stop => { feed with log := {}, socket := none, received := [], held := [] }

end Step

-- Each operation leaves the feed as it is, or it changes the feed in one of these ways.
section Cases

variable (feed : Feed)

/-- An observation changes only a feed that has nothing left to broadcast. -/
theorem observe_cases (config : DetectorConfig) (metrics : SystemMetrics) :
    feed.observe config metrics = feed ∨
      feed.broadcast = .idle ∧ feed.observe config metrics = { feed with
        detector := (OperationsConsole.observe config feed.detector metrics).state
        broadcast := .pending (OperationsConsole.observe config feed.detector metrics).events
        readings := metrics :: feed.readings } := by
  unfold Feed.observe
  cases feed.broadcast with
  | idle => exact .inr ⟨rfl, rfl⟩
  | _ => exact .inl rfl

/-- A broadcast ends, or it sends its next event, or the sends of an event are over. -/
theorem proceed_cases :
    feed.proceed = feed ∨
      (∃ events, feed.broadcast = .pending events ∧ (events = [] ∨ feed.connections = []) ∧
        feed.proceed = { feed with broadcast := .idle }) ∨
      (∃ event rest, feed.broadcast = .pending (event :: rest) ∧ feed.connections ≠ [] ∧
        feed.proceed = { feed with broadcast := .sending event feed.connections [] rest }) ∨
      ∃ event failed rest, feed.broadcast = .sending event [] failed rest ∧
        feed.proceed = { feed with
          broadcast := .pending rest
          connections := feed.connections.filter fun id => id ∉ failed } := by
  unfold Feed.proceed
  cases feed.broadcast with
  | idle => exact .inl rfl
  | pending events =>
      right
      cases events with
      | nil => exact .inl ⟨[], rfl, .inl rfl, rfl⟩
      | cons event rest =>
          by_cases quiet : feed.connections = []
          · exact .inl ⟨event :: rest, rfl, .inr quiet, if_pos quiet⟩
          · exact .inr (.inl ⟨event, rest, rfl, quiet, if_neg quiet⟩)
  | sending event targets failed rest =>
      cases targets with
      | nil => exact .inr (.inr (.inr ⟨event, failed, rest, rfl, if_pos rfl⟩))
      | cons target targets => exact .inl (if_neg (List.cons_ne_nil target targets))

/-- A frame for a socket that is not there is lost. -/
theorem push_missing (id : Nat) (frame : Frame) (missing : feed.sockets.get? id = none) :
    feed.push id frame = feed := by
  unfold Feed.push
  rw [missing]

/-- A frame is put on a socket that is there. -/
theorem push_stored (id : Nat) (frame : Frame) (socket : FeedSocket)
    (stored : feed.sockets.get? id = some socket) :
    feed.push id frame =
      { feed with sockets := feed.sockets.set id ⟨socket.stage, socket.sent ++ [frame]⟩ } := by
  unfold Feed.push
  rw [stored]

/-- A send goes to a target of the broadcast, and its frame may be on the socket. -/
theorem send_cases (id : Nat) (delivered succeeded : Bool) :
    feed.send id delivered succeeded = feed ∨
      ∃ event targets failed rest, feed.broadcast = .sending event targets failed rest ∧
        id ∈ targets ∧ feed.send id delivered succeeded =
          { (if delivered then feed.push id (.event event) else feed) with
            broadcast := .sending event (targets.filter fun other => other ≠ id)
              (if delivered && succeeded then failed else id :: failed) rest } := by
  unfold Feed.send
  cases feed.broadcast with
  | sending event targets failed rest =>
      by_cases target : id ∈ targets
      · exact .inr ⟨event, targets, failed, rest, rfl, target, if_pos target⟩
      · exact .inl (if_neg target)
  | _ => exact .inl rfl

/-- An opened socket joins the connections. -/
theorem register_opened (id : Nat) (socket : FeedSocket)
    (stored : feed.sockets.get? id = some socket) (opened : socket.stage = .opened) :
    feed.register id = { feed with
      connections := feed.connections ++ [id]
      sockets := feed.sockets.set id ⟨.registered, socket.sent⟩ } := by
  unfold Feed.register
  rw [stored]
  exact if_pos opened

/-- Only an opened socket joins the connections. -/
theorem register_cases (id : Nat) :
    feed.register id = feed ∨
      ∃ socket, feed.sockets.get? id = some socket ∧ socket.stage = .opened ∧
        feed.register id = { feed with
          connections := feed.connections ++ [id]
          sockets := feed.sockets.set id ⟨.registered, socket.sent⟩ } := by
  cases stored : feed.sockets.get? id with
  | none =>
      left
      unfold Feed.register
      rw [stored]
  | some socket =>
      by_cases opened : socket.stage = .opened
      · exact .inr ⟨socket, rfl, opened, feed.register_opened id socket stored opened⟩
      · left
        unfold Feed.register
        rw [stored]
        exact if_neg opened

/-- Only a registered socket gets a backlog. -/
theorem sendBacklog_cases (id : Nat) :
    feed.sendBacklog id = feed ∨
      ∃ socket, feed.sockets.get? id = some socket ∧ socket.stage = .registered ∧
        feed.sendBacklog id = { feed with
          sockets := feed.sockets.set id
            ⟨.served, socket.sent ++ [.backlog feed.readings feed.detector.backlog]⟩ } := by
  unfold Feed.sendBacklog
  cases feed.sockets.get? id with
  | none => exact .inl rfl
  | some socket =>
      by_cases registered : socket.stage = .registered
      · exact .inr ⟨socket, rfl, registered, if_pos registered⟩
      · exact .inl (if_neg registered)

/-- The browser handles the next frame of its socket, if there is one. -/
theorem deliver_cases :
    feed.deliver = feed ∨
      ∃ id socket frame, feed.socket = some id ∧ feed.sockets.get? id = some socket ∧
        socket.sent[feed.received.length]? = some frame ∧
        feed.deliver = { feed.handleMessage frame with received := feed.received ++ [frame] } := by
  unfold Feed.deliver
  cases feed.socket with
  | none => exact .inl rfl
  | some id =>
      dsimp only [Option.bind_some]
      cases stored : feed.sockets.get? id with
      | none => exact .inl rfl
      | some socket =>
          dsimp only
          cases next : socket.sent[feed.received.length]? with
          | none => exact .inl rfl
          | some frame => exact .inr ⟨id, socket, frame, rfl, stored, next, rfl⟩

/-- A frame changes what the browser shows, and nothing else. -/
theorem handleMessage_view (frame : Frame) :
    ∃ log held, feed.handleMessage frame = { feed with log := log, held := held } := by
  cases frame <;> exact ⟨_, _, rfl⟩

/-- A delivery changes what the browser shows and has received, and nothing else. -/
theorem deliver_view : ∃ log held received,
    feed.deliver = { feed with log := log, held := held, received := received } := by
  rcases feed.deliver_cases with same | ⟨_, _, frame, _, _, _, same⟩
  · exact ⟨_, _, _, same⟩
  · obtain ⟨log, held, view⟩ := feed.handleMessage_view frame
    rw [same, view]
    exact ⟨_, _, _, rfl⟩

end Cases

end Feed

/-- The feed after the steps of a history, the newest first. -/
def feedAfter (config : DetectorConfig) (history : List FeedInput) : Feed :=
  after (Feed.step config) {} history

end OperationsConsole
