/-
This file proves that a registered socket misses no event of the feed.
An event that is observed while it is registered is on the socket, or it is still to be sent to it.
-/

import OperationsConsole.Feed.FeedServer

namespace OperationsConsole

open Library Browser

/-- The sockets whose sends failed in the broadcast under way. -/
def Broadcast.failed : Broadcast → List Nat
  | .sending _ _ failed _ => failed
  | _ => []

/-- An input leaves a socket connected unless the server restarts, the loop is interrupted,
the endpoint of the socket ends, or a send to it fails. -/
def FeedInput.Keeps (id : Nat) : FeedInput → Prop
  | .restart | .abort => False
  | .leave other => other ≠ id
  | .send other delivered succeeded => other = id → delivered = true ∧ succeeded = true
  | _ => True

/-- A socket is known to the server after its registration. -/
def Feed.Knows (feed : Feed) (id : Nat) : Prop :=
  ∃ socket, feed.sockets.get? id = some socket ∧ socket.stage ≠ .opened

section Step

variable (config : DetectorConfig) (feed : Feed) (id : Nat)

theorem knows_of_set (later : Feed) (other : Nat) (socket : FeedSocket)
    (sockets : later.sockets = feed.sockets.set other socket)
    (moved : other = id → socket.stage ≠ .opened) (known : feed.Knows id) : later.Knows id := by
  unfold Feed.Knows
  rw [sockets, Dict.get?_set]
  split
  · next same => exact ⟨socket, rfl, moved same.symm⟩
  · exact known

theorem knows_push (other : Nat) (frame : Frame) (known : feed.Knows id) :
    (feed.push other frame).Knows id := by
  cases stored : feed.sockets.get? other with
  | none =>
      rw [feed.push_missing other frame stored]
      exact known
  | some socket =>
      rw [feed.push_stored other frame socket stored]
      refine knows_of_set feed id _ other _ rfl ?_ known
      intro same
      obtain ⟨own, found, stage⟩ := known
      rw [← same, stored, Option.some.injEq] at found
      rw [found]
      exact stage

/-- A known socket stays known. -/
theorem knows_step (input : FeedInput) (server : ServerFits config feed) (known : feed.Knows id) :
    (feed.step config input).Knows id := by
  cases input with
  | observe metrics =>
      rcases feed.observe_cases config metrics with same | ⟨_, same⟩
      · rw [Feed.step, same]
        exact known
      · rw [Feed.step, same]
        exact known
  | proceed =>
      rcases feed.proceed_cases with same | ⟨_, _, _, same⟩ | ⟨_, _, _, _, same⟩ |
        ⟨_, _, _, _, same⟩
      · rw [Feed.step, same]
        exact known
      all_goals
        rw [Feed.step, same]
        exact known
  | send other delivered succeeded =>
      rcases feed.send_cases other delivered succeeded with same | ⟨event, _, _, _, _, _, same⟩
      · rw [Feed.step, same]
        exact known
      · rw [Feed.step, same]
        cases delivered with
        | false => exact known
        | true => exact knows_push feed id other (.event event) known
  | register other =>
      rcases feed.register_cases other with same | ⟨_, _, _, same⟩
      · rw [Feed.step, same]
        exact known
      · rw [Feed.step, same]
        exact knows_of_set feed id _ other _ rfl (by simp) known
  | sendBacklog other =>
      rcases feed.sendBacklog_cases other with same | ⟨_, _, _, same⟩
      · rw [Feed.step, same]
        exact known
      · rw [Feed.step, same]
        exact knows_of_set feed id _ other _ rfl (by simp) known
  | restart =>
      obtain ⟨socket, stored, stage⟩ := known
      refine ⟨{ socket with stage := .gone }, ?_, by simp⟩
      change (feed.sockets.mapValues _).get? id = _
      rw [Dict.get?_mapValues, stored, Option.map_some, if_neg stage]
  | openSocket own =>
      have earlier : feed.opened ≠ id := by
        obtain ⟨socket, stored, _⟩ := known
        exact Nat.ne_of_gt (server.fresh id socket stored)
      cases own with
      | false => exact knows_of_set feed id _ feed.opened {} rfl (absurd · earlier) known
      | true => exact knows_of_set feed id _ feed.opened {} rfl (absurd · earlier) known
  | deliver =>
      obtain ⟨_, _, _, same⟩ := feed.deliver_view
      rw [Feed.step, same]
      exact known
  | abort | leave _ | close | note _ _ _ | audit _ | stop => exact known

/-- A send that fails is a send to a socket that the server knows. -/
theorem failed_send (target : Nat) (delivered succeeded : Bool) (server : ServerFits config feed)
    (failed : ∀ id ∈ feed.broadcast.failed, feed.Knows id) :
    ∀ id ∈ (feed.send target delivered succeeded).broadcast.failed, feed.Knows id := by
  intro other member
  rcases feed.send_cases target delivered succeeded with
    same | ⟨event, targets, fails, rest, phase, targeted, same⟩
  · rw [same] at member
    exact failed other member
  · rw [same] at member
    have earlier : other ∈ target :: fails := by
      change other ∈ (if (delivered && succeeded) = true then fails else target :: fails) at member
      split at member
      · exact List.mem_cons_of_mem _ member
      · exact member
    rw [phase] at failed
    rcases List.mem_cons.mp earlier with own | old
    · obtain ⟨socket, stored, alive⟩ := server.connected target (by
        rw [phase]
        exact List.mem_append_right _ targeted)
      rw [own]
      refine ⟨socket, stored, ?_⟩
      rcases alive with stage | stage
      · simp [stage]
      · simp [stage]
    · exact failed other old

/-- A send can fail only on a socket that the server knows. -/
theorem failed_step (input : FeedInput) (server : ServerFits config feed)
    (failed : ∀ id ∈ feed.broadcast.failed, feed.Knows id) :
    ∀ id ∈ (feed.step config input).broadcast.failed, (feed.step config input).Knows id := by
  intro other member
  apply knows_step config feed other input server
  cases input with
  | observe metrics =>
      rcases feed.observe_cases config metrics with same | ⟨_, same⟩
      · rw [Feed.step, same] at member
        exact failed other member
      · rw [Feed.step, same] at member
        cases member
  | proceed =>
      rcases feed.proceed_cases with same | ⟨_, _, _, same⟩ | ⟨_, _, _, _, same⟩ |
        ⟨_, _, _, _, same⟩
      · rw [Feed.step, same] at member
        exact failed other member
      all_goals
        rw [Feed.step, same] at member
        cases member
  | send target delivered succeeded =>
      exact failed_send config feed target delivered succeeded server failed other member
  | register target =>
      rcases feed.register_cases target with same | ⟨_, _, _, same⟩ <;>
        rw [Feed.step, same] at member <;> exact failed other member
  | sendBacklog target =>
      rcases feed.sendBacklog_cases target with same | ⟨_, _, _, same⟩ <;>
        rw [Feed.step, same] at member <;> exact failed other member
  | deliver =>
      obtain ⟨_, _, _, same⟩ := feed.deliver_view
      rw [Feed.step, same] at member
      exact failed other member
  | openSocket own =>
      cases own with
      | false => exact failed other member
      | true => exact failed other member
  | restart | abort => cases member
  | leave _ | close | note _ _ _ | audit _ | stop => exact failed other member

/-- The frames of a live socket lack no event since a start but those that are still to come. -/
structure SocketAttends (start readings : List SystemMetrics) (upcoming : List Event)
    (socket : FeedSocket) : Prop where
  alive : socket.stage.alive
  complete : ∀ event ∈ producedEvents config readings, event ∉ producedEvents config start →
    event ∈ frameEvents socket.sent ∨ event ∈ upcoming
  backlogs : ∀ older events, .backlog older events ∈ socket.sent → start <:+ older

/-- A connected socket attends if its sends did not fail and its frames lack no event. -/
structure Attends (start : List SystemMetrics) : Prop where
  connected : id ∈ feed.connections
  unfailed : id ∉ feed.broadcast.failed
  since : start <:+ feed.readings
  socket : ∃ socket, feed.sockets.get? id = some socket ∧
    SocketAttends config start feed.readings (feed.broadcast.upcomingFor id) socket

variable (start : List SystemMetrics)

/-- A step that sets another socket keeps the one that attends. -/
theorem attends_of_set (later : Feed) (other : Nat) (socket : FeedSocket)
    (sockets : later.sockets = feed.sockets.set other socket) (different : other ≠ id)
    (readings : later.readings = feed.readings) (connected : id ∈ later.connections)
    (unfailed : id ∉ later.broadcast.failed)
    (upcoming : later.broadcast.upcomingFor id = feed.broadcast.upcomingFor id)
    (attends : Attends config feed id start) : Attends config later id start := by
  refine ⟨connected, unfailed, readings ▸ attends.since, ?_⟩
  obtain ⟨own, stored, frames⟩ := attends.socket
  refine ⟨own, ?_, ?_⟩
  · rw [sockets, Dict.get?_set, if_neg (Ne.symm different)]
    exact stored
  · rw [readings, upcoming]
    exact frames

/-- A step that leaves the sockets as they are keeps the one that attends. -/
theorem attends_of_same (later : Feed) (sockets : later.sockets = feed.sockets)
    (readings : later.readings = feed.readings) (connected : id ∈ later.connections)
    (unfailed : id ∉ later.broadcast.failed)
    (upcoming : later.broadcast.upcomingFor id = feed.broadcast.upcomingFor id)
    (attends : Attends config feed id start) : Attends config later id start := by
  refine ⟨connected, unfailed, readings ▸ attends.since, ?_⟩
  rw [sockets, readings, upcoming]
  exact attends.socket

/-- An observation keeps the client attended. -/
theorem observe_attends (metrics : SystemMetrics) (server : ServerFits config feed)
    (attends : Attends config feed id start) :
    Attends config (feed.observe config metrics) id start := by
  rcases feed.observe_cases config metrics with same | ⟨phase, same⟩
  · rw [same]
    exact attends
  · rw [same]
    refine ⟨attends.connected, by simp [Broadcast.failed],
      attends.since.trans (List.suffix_cons _ _), ?_⟩
    obtain ⟨socket, stored, frames⟩ := attends.socket
    refine ⟨socket, stored, frames.alive, ?_, frames.backlogs⟩
    intro event produced fresh
    rw [producedEvents, ← server.detector, List.mem_append] at produced
    rcases produced with old | new
    · -- Nothing was left to send before this reading.
      have known := frames.complete event old fresh
      rw [phase] at known
      exact known.imp_right fun impossible => by cases impossible
    · exact .inr new

/-- The next part of a broadcast keeps the client attended. -/
theorem proceed_attends (attends : Attends config feed id start) :
    Attends config feed.proceed id start := by
  have unfailed := attends.unfailed
  rcases feed.proceed_cases with same | ⟨events, phase, ended, same⟩ |
    ⟨event, rest, phase, _, same⟩ | ⟨event, failed, rest, phase, same⟩
  · rw [same]
    exact attends
  · rw [same]
    have empty : events = [] :=
      ended.resolve_right (List.ne_nil_of_mem attends.connected)
    refine attends_of_same config feed id start _ rfl rfl attends.connected ?_ ?_ attends
    · simp [Broadcast.failed]
    · rw [phase, empty]
      rfl
  · rw [same]
    refine attends_of_same config feed id start _ rfl rfl attends.connected ?_ ?_ attends
    · simp [Broadcast.failed]
    · rw [phase]
      exact if_pos attends.connected
  · rw [same]
    rw [phase] at unfailed
    refine attends_of_same config feed id start _ rfl rfl ?_ ?_ ?_ attends
    · rw [List.mem_filter]
      exact ⟨attends.connected, by simpa [Broadcast.failed] using unfailed⟩
    · simp [Broadcast.failed]
    · rw [phase]
      rfl

/-- A frame on its way to a socket stands on the socket, or it is still to be sent to it. -/
theorem SocketAttends.push_event (readings : List SystemMetrics) (event : Event)
    (rest : List Event) (socket : FeedSocket)
    (frames : SocketAttends config start readings (event :: rest) socket) :
    SocketAttends config start readings rest
      ⟨socket.stage, socket.sent ++ [.event event]⟩ := by
  refine ⟨frames.alive, ?_, ?_⟩
  · intro news produced fresh
    rw [frameEvents_append, List.mem_append]
    rcases frames.complete news produced fresh with old | member
    · exact .inl (.inl old)
    · rcases List.mem_cons.mp member with now | later
      · rw [now]
        exact .inl (.inr List.mem_cons_self)
      · exact .inr later
  · intro older events member
    exact frames.backlogs older events (by simpa using member)

/-- A frame that is sent to another socket keeps the client attended. -/
theorem send_attends_of_ne (other : Nat) (delivered succeeded : Bool) (different : other ≠ id)
    (attends : Attends config feed id start) :
    Attends config (feed.send other delivered succeeded) id start := by
  rcases feed.send_cases other delivered succeeded with
    same | ⟨event, targets, failed, rest, phase, _, same⟩
  · rw [same]
    exact attends
  have unfailed := attends.unfailed
  rw [phase] at unfailed
  have failedThen : id ∉ (if (delivered && succeeded) = true then failed else other :: failed) := by
    split
    · exact unfailed
    · rw [List.mem_cons, not_or]
      exact ⟨Ne.symm different, unfailed⟩
  have upcoming : (Broadcast.sending event (targets.filter fun target => target ≠ other)
      (if (delivered && succeeded) = true then failed else other :: failed)
      rest).upcomingFor id = feed.broadcast.upcomingFor id := by
    have aimed : id ∈ targets.filter (fun target => target ≠ other) ↔ id ∈ targets := by
      simp [Ne.symm different]
    rw [phase]
    unfold Broadcast.upcomingFor
    simp only [aimed]
  have unsent : Attends config { feed with
      broadcast := .sending event (targets.filter fun target => target ≠ other)
        (if (delivered && succeeded) = true then failed else other :: failed) rest } id start :=
    attends_of_same config feed id start _ rfl rfl attends.connected failedThen upcoming attends
  rw [same]
  cases delivered with
  | false => exact unsent
  | true =>
      rw [if_pos rfl]
      cases stored : feed.sockets.get? other with
      | none =>
          rw [feed.push_missing other _ stored]
          exact unsent
      | some socket =>
          rw [feed.push_stored other _ socket stored]
          exact attends_of_set config feed id start _ other _ rfl different rfl
            attends.connected failedThen upcoming attends

/-- A frame that is sent keeps the client attended. -/
theorem send_attends (other : Nat) (delivered succeeded : Bool)
    (keeps : FeedInput.Keeps id (.send other delivered succeeded))
    (attends : Attends config feed id start) :
    Attends config (feed.send other delivered succeeded) id start := by
  by_cases own : other = id
  · -- The frame of this socket goes out, so the event moves from the rest to the socket.
    obtain ⟨sent, succeeds⟩ := keeps own
    subst own sent succeeds
    rcases feed.send_cases other true true with
      same | ⟨event, targets, failed, rest, phase, targeted, same⟩
    · rw [same]
      exact attends
    obtain ⟨socket, stored, frames⟩ := attends.socket
    have unfailed := attends.unfailed
    rw [phase] at unfailed
    rw [phase, Broadcast.upcomingFor, if_pos targeted] at frames
    rw [same, if_pos rfl, feed.push_stored other _ socket stored]
    refine ⟨attends.connected, unfailed, attends.since,
      ⟨socket.stage, socket.sent ++ [.event event]⟩, ?_, ?_⟩
    · change (feed.sockets.set other _).get? other = _
      rw [Dict.get?_set, if_pos rfl]
    · have waiting : (Broadcast.sending event (targets.filter fun target => target ≠ other) failed
          rest).upcomingFor other = rest := if_neg (by simp)
      change SocketAttends config start feed.readings (Broadcast.upcomingFor (Broadcast.sending event
        (targets.filter fun target => target ≠ other) failed rest) other) _
      rw [waiting]
      exact frames.push_event config start feed.readings event rest socket
  · exact send_attends_of_ne config feed id start other delivered succeeded own attends

/-- Another registration keeps the client attended. -/
theorem register_attends (other : Nat) (attends : Attends config feed id start) :
    Attends config (feed.register other) id start := by
  rcases feed.register_cases other with same | ⟨socket, stored, unopened, same⟩
  · rw [same]
    exact attends
  · rw [same]
    have different : other ≠ id := by
      intro equal
      obtain ⟨own, found, frames⟩ := attends.socket
      have alive := frames.alive
      rw [← equal, stored, Option.some.injEq] at found
      rw [← found, SocketStage.alive, unopened] at alive
      simp at alive
    exact attends_of_set config feed id start _ other _ rfl different rfl
      (List.mem_append_left _ attends.connected) attends.unfailed rfl attends

/-- A backlog that is sent keeps the client attended. -/
theorem sendBacklog_attends (other : Nat) (attends : Attends config feed id start) :
    Attends config (feed.sendBacklog other) id start := by
  rcases feed.sendBacklog_cases other with same | ⟨socket, stored, _, same⟩
  · rw [same]
    exact attends
  rw [same]
  by_cases own : other = id
  · subst own
    obtain ⟨found, known, frames⟩ := attends.socket
    rw [stored, Option.some.injEq] at known
    subst known
    refine ⟨attends.connected, attends.unfailed, attends.since,
      ⟨.served, socket.sent ++ [.backlog feed.readings feed.detector.backlog]⟩, ?_,
      .inr rfl, ?_, ?_⟩
    · change (feed.sockets.set other _).get? other = _
      rw [Dict.get?_set, if_pos rfl]
    · intro event produced fresh
      rw [frameEvents_append, List.mem_append]
      exact (frames.complete event produced fresh).imp_left .inl
    · intro older events member
      rw [List.mem_append, List.mem_singleton] at member
      rcases member with old | new
      · exact frames.backlogs older events old
      · rw [Frame.backlog.injEq] at new
        rw [new.1]
        exact attends.since
  · exact attends_of_set config feed id start _ other _ rfl own rfl attends.connected
      attends.unfailed rfl attends

/-- An input that leaves a socket connected keeps it attending. -/
theorem attends_step (input : FeedInput) (server : ServerFits config feed)
    (keeps : input.Keeps id) (attends : Attends config feed id start) :
    Attends config (feed.step config input) id start := by
  have view : ∀ later : Feed, later.sockets = feed.sockets → later.readings = feed.readings →
      later.connections = feed.connections → later.broadcast = feed.broadcast →
        Attends config later id start := by
    intro later sockets readings connections broadcast
    apply attends_of_same config feed id start later sockets readings _ _ _ attends
    · rw [connections]
      exact attends.connected
    · rw [broadcast]
      exact attends.unfailed
    · rw [broadcast]
  cases input with
  | observe metrics => exact observe_attends config feed id start metrics server attends
  | proceed => exact proceed_attends config feed id start attends
  | send other delivered succeeded =>
      exact send_attends config feed id start other delivered succeeded keeps attends
  | abort => exact keeps.elim
  | register other => exact register_attends config feed id start other attends
  | sendBacklog other => exact sendBacklog_attends config feed id start other attends
  | leave other =>
      refine attends_of_same config feed id start _ rfl rfl ?_ attends.unfailed rfl attends
      exact List.mem_filter.mpr ⟨attends.connected, by simpa using Ne.symm keeps⟩
  | restart => exact keeps.elim
  | openSocket own =>
      have earlier : feed.opened ≠ id := by
        obtain ⟨socket, stored, _⟩ := attends.socket
        exact Nat.ne_of_gt (server.fresh id socket stored)
      cases own with
      | false =>
          exact attends_of_set config feed id start _ feed.opened {} rfl earlier rfl
            attends.connected attends.unfailed rfl attends
      | true =>
          exact attends_of_set config feed id start _ feed.opened {} rfl earlier rfl
            attends.connected attends.unfailed rfl attends
  | close => exact view _ rfl rfl rfl rfl
  | deliver =>
      obtain ⟨_, _, _, same⟩ := feed.deliver_view
      rw [Feed.step, same]
      exact view _ rfl rfl rfl rfl
  | note _ _ _ => exact view _ rfl rfl rfl rfl
  | audit _ => exact view _ rfl rfl rfl rfl
  | stop => exact view _ rfl rfl rfl rfl

end Step

section Run

variable (config : DetectorConfig)

/-- After every history the server is in step with its log. -/
theorem feedAfter_server (history : List FeedInput) : ServerFits config (feedAfter config history) := by
  induction history with
  | nil =>
      exact ⟨rfl, List.Pairwise.nil, by simp [feedAfter, Broadcast.upcoming],
        by simp [feedAfter, Broadcast.targets], by simp [feedAfter], by simp [feedAfter]⟩
  | cons input earlier ih => exact step_server config _ input ih

/-- Only a known client can fail. -/
theorem feedAfter_failed (history : List FeedInput) :
    ∀ id ∈ (feedAfter config history).broadcast.failed, (feedAfter config history).Knows id := by
  induction history with
  | nil => simp [feedAfter, Broadcast.failed]
  | cons input earlier ih =>
      exact failed_step config _ input (feedAfter_server config earlier) ih

/-- A socket is registered when the server meets it opened. -/
def Registers (earlier : List FeedInput) (id : Nat) : Prop :=
  ∃ socket, (feedAfter config earlier).sockets.get? id = some socket ∧ socket.stage = .opened

/-- A client is attended from its registration on. -/
theorem attends_register (earlier : List FeedInput) (id : Nat) (opens : Registers config earlier id) :
    Attends config (feedAfter config (.register id :: earlier)) id
      (feedAfter config earlier).readings := by
  have unknown : id ∉ (feedAfter config earlier).broadcast.failed := by
    intro member
    obtain ⟨socket, stored, stage⟩ := feedAfter_failed config earlier id member
    obtain ⟨own, found, unopened⟩ := opens
    rw [stored, Option.some.injEq] at found
    exact stage (found ▸ unopened)
  obtain ⟨socket, stored, unopened⟩ := opens
  have empty := ((feedAfter_server config earlier).sockets id socket stored).opened unopened
  change Attends config ((feedAfter config earlier).register id) id _
  rw [Feed.register_opened _ id socket stored unopened]
  refine ⟨List.mem_append_right _ List.mem_cons_self, unknown, List.suffix_rfl,
    ⟨.registered, socket.sent⟩, ?_, .inl rfl, ?_, ?_⟩
  · change ((feedAfter config earlier).sockets.set id _).get? id = _
    rw [Dict.get?_set, if_pos rfl]
  · intro event produced fresh
    exact absurd produced fresh
  · rw [empty]
    simp

/-- A socket attends from its registration on, as long as the inputs leave it connected. -/
theorem attends_after (later earlier : List FeedInput) (id : Nat)
    (opens : Registers config earlier id) (keeps : ∀ input ∈ later, input.Keeps id) :
    Attends config (feedAfter config (later ++ .register id :: earlier)) id
      (feedAfter config earlier).readings := by
  induction later with
  | nil => exact attends_register config earlier id opens
  | cons input later ih =>
      apply attends_step config _ id _ input (feedAfter_server config _)
      · exact keeps input List.mem_cons_self
      · exact ih fun other member => keeps other (List.mem_cons_of_mem _ member)

end Run

end OperationsConsole
