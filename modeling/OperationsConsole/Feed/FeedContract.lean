/-
This file proves that the event feed reaches a browser exactly once and in order.
The browser holds the ring of its backlog and the later events that reached its socket.
-/

import OperationsConsole.Feed.FeedDelivery

namespace OperationsConsole

open Library Browser

/-- These facts hold of the browser after every step. -/
structure BrowserFits (config : DetectorConfig) (feed : Feed) : Prop where
  begins : ∀ id, feed.socket = some id → ∃ socket, feed.sockets.get? id = some socket ∧
    feed.received <+: socket.sent
  received : SentFits config feed.received
  held : ∀ before readings events later,
    feed.received = before ++ .backlog readings events :: later →
      (feed.log.lastServerEventId, feed.held) =
        (frameEvents later).foldl (absorb Event.id) (markOf Event.id events, events)
  log : feed.log.serverEntries.Perm (feed.held.map serverEntry)

/-- The sockets of a later state have sent at least the frames of the earlier one. -/
def SocketsGrow (feed later : Feed) : Prop :=
  ∀ id socket, feed.sockets.get? id = some socket → ∃ grown,
    later.sockets.get? id = some grown ∧ socket.sent <+: grown.sent

section Step

variable (config : DetectorConfig) (feed : Feed)

/-- The same sockets lose nothing. -/
theorem socketsGrow_of_same (later : Feed) (same : later.sockets = feed.sockets) :
    SocketsGrow feed later := by
  intro id socket found
  rw [same]
  exact ⟨socket, found, List.prefix_rfl⟩

theorem socketsGrow_of_set (later : Feed) (id : Nat) (socket : FeedSocket)
    (sockets : later.sockets = feed.sockets.set id socket)
    (longer : ∀ old, feed.sockets.get? id = some old → old.sent <+: socket.sent) :
    SocketsGrow feed later := by
  intro other old found
  rw [sockets, Dict.get?_set]
  split
  · rename_i same
    rw [same] at found
    exact ⟨socket, rfl, longer old found⟩
  · exact ⟨old, found, List.prefix_rfl⟩

/-- A restart takes back nothing that was sent. -/
theorem restart_grows : SocketsGrow feed feed.restart := by
  intro id socket found
  unfold Feed.restart
  dsimp only
  rw [Dict.get?_mapValues, found]
  refine ⟨_, rfl, ?_⟩
  dsimp only
  split <;> exact List.prefix_rfl

/-- A new socket takes back nothing that was sent. -/
theorem openSocket_grows (own : Bool) (fits : ServerFits config feed) :
    SocketsGrow feed (feed.openSocket own) := by
  have opened : SocketsGrow feed { feed with
      sockets := feed.sockets.set feed.opened {}
      opened := feed.opened + 1 } := by
    apply socketsGrow_of_set feed _ feed.opened {} rfl
    intro old found
    have earlier := fits.fresh feed.opened old found
    omega
  cases own with
  | true => exact opened
  | false => exact opened

/-- The browser stays explained while the sockets grow. -/
theorem browser_of_grow (later : Feed) (fits : BrowserFits config feed)
    (grow : SocketsGrow feed later) (socket : later.socket = feed.socket)
    (received : later.received = feed.received)
    (view : later.log = feed.log ∧ later.held = feed.held) : BrowserFits config later := by
  refine ⟨?_, ?_, ?_, ?_⟩
  · intro id current
    rw [socket] at current
    obtain ⟨old, found, begins⟩ := fits.begins id current
    obtain ⟨grown, stored, longer⟩ := grow id old found
    rw [received]
    exact ⟨grown, stored, begins.trans longer⟩
  · rw [received]
    exact fits.received
  · rw [received, view.1, view.2]
    exact fits.held
  · rw [view.1, view.2]
    exact fits.log

/-- The browser stays explained when it has received nothing on its socket. -/
theorem browser_of_quiet (later : Feed)
    (current : ∀ id, later.socket = some id → ∃ socket, later.sockets.get? id = some socket)
    (received : later.received = [])
    (log : later.log.serverEntries.Perm (later.held.map serverEntry)) : BrowserFits config later := by
  refine ⟨?_, ?_, ?_, log⟩
  · intro id same
    obtain ⟨socket, found⟩ := current id same
    rw [received]
    exact ⟨socket, found, List.nil_prefix⟩
  · rw [received]
    exact SentFits.nil config
  · intro before readings events later split
    rw [received] at split
    simp at split

/-- Entries of other sources leave the browser explained. -/
theorem browser_of_log (log : ActivityLog) (fits : BrowserFits config feed)
    (last : log.lastServerEventId = feed.log.lastServerEventId)
    (entries : log.serverEntries.Perm feed.log.serverEntries) :
    BrowserFits config { feed with log := log } := by
  refine ⟨fits.begins, fits.received, ?_, entries.trans fits.log⟩
  rw [last]
  exact fits.held

/-- A prefix continues with the item behind it. -/
theorem prefix_next {α : Type} (part whole : List α) (item : α) (begins : part <+: whole)
    (next : whole[part.length]? = some item) : part ++ [item] <+: whole := by
  obtain ⟨rest, same⟩ := begins
  rw [← same, List.getElem?_append_right (Nat.le_refl _), Nat.sub_self] at next
  cases rest with
  | nil => simp at next
  | cons first rest =>
      rw [List.getElem?_cons_zero, Option.some.injEq] at next
      rw [← same, ← next]
      exact ⟨rest, by simp⟩

/-- An event with a number is absorbed by the mark of the log. -/
theorem handle_event (event : Event) (positive : 0 < event.id) :
    ((feed.handleMessage (.event event)).log.lastServerEventId,
        (feed.handleMessage (.event event)).held) =
      absorb Event.id (feed.log.lastServerEventId, feed.held) event := by
  have numbered : event.id ≠ 0 := by omega
  unfold Feed.handleMessage ActivityLog.applyServerEvent ActivityLog.covers absorb
  dsimp only
  by_cases low : event.id ≤ feed.log.lastServerEventId
  · simp [numbered, low]
  · simp [numbered, low, ActivityLog.addLogEntry]

/-- The server entries of the log are the entries of the held events. -/
theorem handle_entries (frame : Frame)
    (log : feed.log.serverEntries.Perm (feed.held.map serverEntry)) :
    (feed.handleMessage frame).log.serverEntries.Perm
      ((feed.handleMessage frame).held.map serverEntry) := by
  cases frame with
  | backlog readings events =>
      apply ActivityLog.replaceLogSource_server
      intro entry member
      rw [List.mem_map] at member
      obtain ⟨event, _, same⟩ := member
      rw [← same]
      rfl
  | event event =>
      unfold Feed.handleMessage ActivityLog.applyServerEvent
      dsimp only
      split
      · exact log
      · rw [List.map_append]
        apply (ActivityLog.addLogEntry_server _ (serverEntry event) rfl).trans
        exact log.append (List.Perm.refl _)

/-- A frame that arrives keeps the browser in step with its socket. -/
theorem deliver_browser (fits : BrowserFits config feed) (server : ServerFits config feed) :
    BrowserFits config feed.deliver := by
  rcases feed.deliver_cases with same | ⟨id, socket, frame, current, stored, next, same⟩
  · rw [same]
    exact fits
  · rw [same]
    have begins : feed.received <+: socket.sent := by
      obtain ⟨own, found, begins⟩ := fits.begins id current
      rw [stored, Option.some.injEq] at found
      rw [found]
      exact begins
    have longer := prefix_next feed.received socket.sent frame begins next
    have received := (server.sockets id socket stored).fits.initial config socket.sent _ longer
    refine ⟨?_, received, ?_, handle_entries feed frame fits.log⟩
    · intro other same
      obtain ⟨log, held, view⟩ := feed.handleMessage_view frame
      rw [view] at same ⊢
      rw [current, Option.some.injEq] at same
      rw [← same]
      exact ⟨socket, stored, longer⟩
    · intro before readings events later split
      rcases concat_eq_split feed.received before later frame _ split with
        ⟨tail, _, mark⟩ | ⟨rest, tail, inner⟩
      · rw [tail, ← mark]
        rfl
      · have old := fits.held before readings events rest inner
        cases frame with
        | backlog other taken =>
            exfalso
            apply (received.backlog before readings events later split).only other taken
            rw [tail]
            simp
        | event event =>
            have positive := received.positive event (by
              rw [frameEvents_append]
              exact List.mem_append_right _ List.mem_cons_self)
            rw [handle_event feed event positive, old, tail, frameEvents_append,
              List.foldl_append]
            rfl

/-- Other sockets leave the browser explained when they take back nothing that was sent. -/
theorem browser_of_set (id : Nat) (sent : List Frame) (stage : SocketStage) (socket : FeedSocket)
    (broadcast : Broadcast) (connections : List Nat) (fits : BrowserFits config feed)
    (stored : feed.sockets.get? id = some socket) (longer : socket.sent <+: sent) :
    BrowserFits config { feed with
      sockets := feed.sockets.set id ⟨stage, sent⟩
      broadcast := broadcast
      connections := connections } := by
  apply browser_of_grow config feed _ fits
  · apply socketsGrow_of_set feed _ id _ rfl
    intro old found
    rw [stored, Option.some.injEq] at found
    rw [← found]
    exact longer
  · rfl
  · rfl
  · exact ⟨rfl, rfl⟩

/-- A frame that is sent keeps the browser in step with its socket. -/
theorem send_browser (id : Nat) (delivered succeeded : Bool) (fits : BrowserFits config feed) :
    BrowserFits config (feed.send id delivered succeeded) := by
  have unsent : ∀ broadcast, BrowserFits config { feed with broadcast := broadcast } := by
    intro broadcast
    exact browser_of_grow config feed _ fits (socketsGrow_of_same feed _ rfl) rfl rfl ⟨rfl, rfl⟩
  rcases feed.send_cases id delivered succeeded with same | ⟨event, _, _, _, _, _, same⟩
  · rw [same]
    exact fits
  · rw [same]
    cases delivered with
    | false => exact unsent _
    | true =>
        rw [if_pos rfl]
        cases stored : feed.sockets.get? id with
        | none =>
            rw [feed.push_missing id (.event event) stored]
            exact unsent _
        | some socket =>
            rw [feed.push_stored id (.event event) socket stored]
            exact browser_of_set config feed id _ _ socket _ _ fits stored (List.prefix_append _ _)

/-- A client that registers keeps the browser in step with its socket. -/
theorem register_browser (id : Nat) (fits : BrowserFits config feed) :
    BrowserFits config (feed.register id) := by
  rcases feed.register_cases id with same | ⟨socket, stored, _, same⟩
  · rw [same]
    exact fits
  · rw [same]
    exact browser_of_set config feed id _ _ socket _ _ fits stored List.prefix_rfl

/-- A backlog that is sent keeps the browser in step with its socket. -/
theorem sendBacklog_browser (id : Nat) (fits : BrowserFits config feed) :
    BrowserFits config (feed.sendBacklog id) := by
  rcases feed.sendBacklog_cases id with same | ⟨socket, stored, _, same⟩
  · rw [same]
    exact fits
  · rw [same]
    exact browser_of_set config feed id _ _ socket _ _ fits stored (List.prefix_append _ _)

/-- A socket that opens keeps the browser in step with its socket. -/
theorem openSocket_browser (own : Bool) (fits : BrowserFits config feed)
    (server : ServerFits config feed) : BrowserFits config (feed.openSocket own) := by
  have grows := openSocket_grows config feed own server
  cases own with
  | true =>
      apply browser_of_quiet config
      · intro id current
        rw [← Option.some.inj current]
        exact ⟨{}, by simp [Feed.openSocket]⟩
      · rfl
      · exact fits.log
  | false => exact browser_of_grow config feed _ fits grows rfl rfl ⟨rfl, rfl⟩

/-- Every step keeps the browser explained. -/
theorem step_browser (input : FeedInput) (fits : BrowserFits config feed)
    (server : ServerFits config feed) : BrowserFits config (feed.step config input) := by
  have same : ∀ later : Feed, later.sockets = feed.sockets → later.socket = feed.socket →
      later.received = feed.received → later.log = feed.log ∧ later.held = feed.held →
        BrowserFits config later := by
    intro later sockets socket received view
    exact browser_of_grow config feed later fits (socketsGrow_of_same feed later sockets) socket
      received view
  cases input with
  | observe metrics =>
      rcases feed.observe_cases config metrics with kept | ⟨_, seen⟩
      · rw [Feed.step, kept]
        exact fits
      · rw [Feed.step, seen]
        exact same _ rfl rfl rfl ⟨rfl, rfl⟩
  | proceed =>
      rcases feed.proceed_cases with kept | ⟨_, _, _, next⟩ | ⟨_, _, _, _, next⟩ |
        ⟨_, _, _, _, next⟩
      · rw [Feed.step, kept]
        exact fits
      all_goals
        rw [Feed.step, next]
        exact same _ rfl rfl rfl ⟨rfl, rfl⟩
  | send id delivered succeeded => exact send_browser config feed id delivered succeeded fits
  | abort => exact same _ rfl rfl rfl ⟨rfl, rfl⟩
  | register id => exact register_browser config feed id fits
  | sendBacklog id => exact sendBacklog_browser config feed id fits
  | leave id => exact same _ rfl rfl rfl ⟨rfl, rfl⟩
  | restart =>
      exact browser_of_grow config feed _ fits (restart_grows feed) rfl rfl ⟨rfl, rfl⟩
  | openSocket own => exact openSocket_browser config feed own fits server
  | close => exact browser_of_quiet config _ (by simp [Feed.step, Feed.close]) rfl fits.log
  | deliver => exact deliver_browser config feed fits server
  | note message time type =>
      apply browser_of_log config feed _ fits
      · rfl
      · exact feed.log.addLogEntry_other _ (by simp)
  | audit entries =>
      apply browser_of_log config feed _ fits
      · rfl
      · exact feed.log.replaceLogSource_other .audit entries (by simp)
  | stop => exact browser_of_quiet config _ (by simp [Feed.step]) rfl (List.Perm.refl _)

end Step

/-- A registered socket that stays connected misses no event of the readings after a start.
The browser behind it holds all of them once its frames have arrived. -/
structure Lossless (config : DetectorConfig) (start : List SystemMetrics) (feed : Feed) (id : Nat)
    (socket : FeedSocket) : Prop where
  stored : feed.sockets.get? id = some socket
  sent : ∀ event ∈ producedEvents config feed.readings, event ∉ producedEvents config start →
    event ∈ frameEvents socket.sent ∨ event ∈ feed.broadcast.upcomingFor id
  covered : ∀ readings events, .backlog readings events ∈ socket.sent → start <:+ readings
  held : feed.socket = some id → ∀ before readings events later,
    feed.received = before ++ .backlog readings events :: later →
      ∀ event ∈ producedEvents config feed.readings, event ∉ producedEvents config readings →
        event ∈ feed.held ∨ event ∈ frameEvents (socket.sent.drop feed.received.length) ∨
          event ∈ feed.broadcast.upcomingFor id
  settled : feed.socket = some id → ∀ before readings events later,
    feed.received = before ++ .backlog readings events :: later → feed.received = socket.sent →
      feed.broadcast.upcomingFor id = [] →
        feed.held = events ++ (producedEvents config feed.readings).filter
          (fun event => event ∉ producedEvents config readings)

/-- The event feed of one browser is complete, ordered, and free of duplicates on a connection. -/
structure FeedContract (config : DetectorConfig) (history : List FeedInput) : Prop where
  ring : ∀ capacity readings, RingHolds { config with capacity := capacity } readings
  detector : (feedAfter config history).detector =
    detectorAfter config (feedAfter config history).readings
  exactly : ∀ before readings events later,
    let feed := feedAfter config history
    feed.received = before ++ .backlog readings events :: later →
      events = (detectorAfter config readings).ring ∧
        feed.held = events ++ (frameEvents feed.received).filter
          (fun event => event ∉ producedEvents config readings) ∧
        Increasing feed.held ∧ feed.log.serverEntries.Perm (feed.held.map serverEntry)
  lossless : ∀ later earlier id, history = later ++ .register id :: earlier →
    Registers config earlier id → (∀ input ∈ later, input.Keeps id) →
      ∃ socket, Lossless config (feedAfter config earlier).readings (feedAfter config history) id
        socket

section Run

variable (config : DetectorConfig)

/-- After every history the browser is in step with its socket. -/
theorem feedAfter_browser (history : List FeedInput) :
    BrowserFits config (feedAfter config history) := by
  induction history with
  | nil => exact browser_of_quiet config _ (by simp [feedAfter]) rfl (List.Perm.refl _)
  | cons input earlier ih =>
      exact step_browser config _ input ih (feedAfter_server config earlier)

/-- The mark of a backlog separates the events that were observed before it from later ones. -/
theorem backlog_mark (room : 0 < config.capacity) (before : List Frame)
    (readings : List SystemMetrics) (events : List Event) (later : List Frame)
    (backlog : BacklogFits config before readings events later) (event : Event)
    (member : event ∈ frameEvents later) :
    markOf Event.id events < event.id ↔ event ∉ producedEvents config readings := by
  rw [backlog.ring, markOf_ring config readings room]
  constructor
  · intro above inside
    have bounded := producedEvents_le config readings event inside
    omega
  · intro absent
    exact (backlog.placed event member).resolve_left absent

/-- The browser holds the ring and the later events, each once and in order. -/
theorem held_exactly (room : 0 < config.capacity) (feed : Feed) (fits : BrowserFits config feed)
    (before : List Frame) (readings : List SystemMetrics) (events : List Event)
    (later : List Frame) (split : feed.received = before ++ .backlog readings events :: later) :
    feed.held = events ++ (frameEvents feed.received).filter
        (fun event => event ∉ producedEvents config readings) ∧ Increasing feed.held := by
  have backlog := fits.received.backlog before readings events later split
  have sent : frameEvents feed.received = frameEvents before ++ frameEvents later := by
    rw [split, frameEvents_append]
    rfl
  have increasing := fits.received.increasing
  rw [sent] at increasing
  have ordered := (List.pairwise_append.mp increasing).2.1
  have held : feed.held = events ++ (frameEvents later).filter
      fun event => markOf Event.id events < event.id := by
    have absorbed := congrArg Prod.snd (fits.held before readings events later split)
    rw [foldl_absorb Event.id (frameEvents later) _ _ ordered] at absorbed
    exact absorbed
  constructor
  · have none : (frameEvents before).filter
        (fun event => event ∉ producedEvents config readings) = [] := by
      rw [List.filter_eq_nil_iff]
      intro event member
      simpa using backlog.earlier event member
    rw [held, sent, List.filter_append, none, List.nil_append]
    congr 1
    apply List.filter_congr
    intro event member
    rw [decide_eq_decide]
    exact backlog_mark config room before readings events later backlog event member
  · rw [held]
    apply snapshot_stream_increasing Event.id events (frameEvents later) _ ordered
    rw [backlog.ring]
    exact (producedEvents_increasing config readings).drop

/-- Two lists of increasing events with the same members are the same. -/
theorem increasing_unique (first second : List Event) (ordered : Increasing first)
    (other : Increasing second) (same : ∀ event, event ∈ first ↔ event ∈ second) :
    first = second := by
  have distinct (events : List Event) (increasing : Increasing events) : events.Nodup :=
    increasing.imp fun less equal => absurd less (by rw [equal]; exact Nat.lt_irrefl _)
  apply ((List.perm_ext_iff_of_nodup (distinct first ordered) (distinct second other)).mpr
    same).eq_of_pairwise _ ordered other
  intro event next _ _ less more
  exact absurd less (Nat.lt_asymm more)

/-- The browser of a socket that attends holds what was sent and not yet produced at its backlog. -/
theorem attends_held (room : 0 < config.capacity) (feed : Feed) (server : ServerFits config feed)
    (browser : BrowserFits config feed) (start : List SystemMetrics) (id : Nat)
    (socket : FeedSocket) (stored : feed.sockets.get? id = some socket)
    (frames : SocketAttends config start feed.readings (feed.broadcast.upcomingFor id) socket) :
    Lossless config start feed id socket := by
  have hears := (server.sockets id socket stored).alive frames.alive
  -- An event that the backlog does not cover was observed after the start.
  have fresh : feed.socket = some id → ∀ before readings events later,
      feed.received = before ++ .backlog readings events :: later →
        ∀ event, event ∉ producedEvents config readings → event ∉ producedEvents config start := by
    intro current before readings events later split event absent
    obtain ⟨own, found, begins⟩ := browser.begins id current
    rw [stored, Option.some.injEq] at found
    have member : .backlog readings events ∈ socket.sent := by
      apply (found ▸ begins).subset
      rw [split]
      simp
    have older := producedEvents_prefix config readings start
      (frames.backlogs readings events member)
    exact fun inside => absent (older.subset inside)
  have held : feed.socket = some id → ∀ before readings events later,
      feed.received = before ++ .backlog readings events :: later →
        ∀ event ∈ producedEvents config feed.readings, event ∉ producedEvents config readings →
          event ∈ feed.held ∨ event ∈ frameEvents (socket.sent.drop feed.received.length) ∨
            event ∈ feed.broadcast.upcomingFor id := by
    intro current before readings events later split event produced absent
    obtain ⟨own, found, begins⟩ := browser.begins id current
    rw [stored, Option.some.injEq] at found
    obtain ⟨rest, whole⟩ := found ▸ begins
    rcases frames.complete event produced (fresh current before readings events later split event
      absent) with sent | upcoming
    · rw [← whole, frameEvents_append, List.mem_append] at sent
      rcases sent with arrived | waiting
      · refine .inl ?_
        rw [(held_exactly config room feed browser before readings events later split).1]
        exact List.mem_append_right _ (List.mem_filter.mpr ⟨arrived, by simpa using absent⟩)
      · refine .inr (.inl ?_)
        rw [← whole, List.drop_left]
        exact waiting
    · exact .inr (.inr upcoming)
  refine ⟨stored, frames.complete, frames.backlogs, held, ?_⟩
  intro current before readings events later split arrived nothing
  rw [(held_exactly config room feed browser before readings events later split).1, arrived]
  congr 1
  apply increasing_unique
  · exact ((List.pairwise_append.mp hears.increasing).1).filter _
  · exact (producedEvents_increasing config feed.readings).filter _
  · intro event
    rw [List.mem_filter, List.mem_filter]
    refine and_congr_left fun absent => ⟨hears.produced event, fun produced => ?_⟩
    have absent : event ∉ producedEvents config readings := by simpa using absent
    have known := frames.complete event produced
      (fresh current before readings events later split event absent)
    rw [nothing] at known
    exact known.resolve_right List.not_mem_nil

end Run

/-- The feed of the application reaches a browser exactly once and in order over every run. -/
theorem eventFeed_exactlyOnce (deadLetterQueues workQueues : List String)
    (queueOwners : Dict String (String × String)) (history : List FeedInput) :
    FeedContract (appDetector deadLetterQueues workQueues queueOwners) history := by
  let config := appDetector deadLetterQueues workQueues queueOwners
  have server := feedAfter_server config history
  have browser := feedAfter_browser config history
  have room : 0 < config.capacity := Nat.zero_lt_succ 199
  refine ⟨?_, server.detector, ?_, ?_⟩
  · intro capacity readings
    exact detectorAfter_ring _ readings
  · intro before readings events later feed split
    have backlog := browser.received.backlog before readings events later split
    obtain ⟨held, increasing⟩ := held_exactly config room feed browser before readings events later
      split
    refine ⟨?_, held, increasing, browser.log⟩
    rw [backlog.ring, (detectorAfter_ring _ readings).ring]
  · intro later earlier id run opens keeps
    have attends := attends_after config later earlier id opens keeps
    rw [← run] at attends
    obtain ⟨socket, stored, frames⟩ := attends.socket
    exact ⟨socket, attends_held config room _ server browser _ id socket stored frames⟩

/-- A reading of one datastore. -/
def neo4jReading (status : String) (time : Seconds) : SystemMetrics :=
  { pipelines := Dict.empty, databases := [⟨"Neo4j", status⟩], timestamp := time }

/-- A browser connects, its backlog follows a broadcast, and a second event is streamed later. -/
def neo4jOutage : List FeedInput :=
  [.deliver, .send 0 true true, .proceed, .observe (neo4jReading "healthy" 60), .proceed,
    .proceed, .deliver, .deliver, .sendBacklog 0, .send 0 true true, .proceed,
    .observe (neo4jReading "unhealthy" 30), .register 0, .openSocket true, .proceed,
    .observe (neo4jReading "healthy" 0)]

/-- The first event is streamed and in the backlog, and the browser holds both events once. -/
theorem eventFeed_neo4jOutage :
    let config := appDetector [] [] Dict.empty
    let feed := feedAfter config neo4jOutage
    FeedContract config neo4jOutage ∧
      (∃ socket, Lossless config [neo4jReading "healthy" 0] feed 0 socket) ∧
      (frameEvents feed.received).map Event.id = [1, 2] ∧
      feed.held.map Event.kind = ["datastore-down", "datastore-up"] := by
  intro config feed
  have contract := eventFeed_exactlyOnce [] [] Dict.empty neo4jOutage
  refine ⟨contract, ?_, by decide, by decide⟩
  exact contract.lossless (neo4jOutage.take 12) (neo4jOutage.drop 13) 0 rfl ⟨_, rfl, rfl⟩
    (by simp [neo4jOutage, FeedInput.Keeps])

end OperationsConsole
