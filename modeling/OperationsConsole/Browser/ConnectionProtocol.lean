/-
This file proves the protocol of the live connection over every order of its steps.
A ticket of an earlier session is the only thing that can break it.
-/

import OperationsConsole.Browser.Connection

namespace OperationsConsole.Browser

open Library

/-- The session in which a log leaves the page. -/
def currentSession : List ConnectionEvent → Option Nat
  | [] => none
  | .begun session :: _ => some session
  | .stopped :: _ => none
  | _ :: past => currentSession past

/-- The next delay doubles the last one up to the cap, and it starts again after a delivered frame
and in a new session. -/
def nextDelay : List ConnectionEvent → Nat
  | [] => reconnectBaseMs
  | .begun _ :: _ => reconnectBaseMs
  | .delivered :: _ => reconnectBaseMs
  | .scheduled delay :: _ => min (delay * 2) reconnectMaxMs
  | _ :: past => nextDelay past

/-- A reconnect waits for the next delay, and outside a session no timer fires and no socket is
opened. -/
def ConnectionRule : ConnectionEvent → List ConnectionEvent → Prop
  | .scheduled delay, past => delay = nextDelay past ∧ reconnectBaseMs ≤ delay ∧
      delay ≤ reconnectMaxMs
  | .fired, past => currentSession past ≠ none
  | .opened _ _, past => currentSession past ≠ none
  | _, _ => True

/-- A socket is opened with a ticket that was requested in the current session. -/
def TicketRule : ConnectionEvent → List ConnectionEvent → Prop
  | .opened _ requested, past => requested = currentSession past
  | _, _ => True

/-- A socket of the browser is connecting or open. -/
def LiveSocketAt (page : Connection) (socket : Nat) : Prop :=
  ∃ state, page.sockets[socket]? = some state ∧ state.live = true

/-- At most one request, one live socket, and one timer exist, and the log obeys its rules. -/
structure ConnectionHolds (page : Connection) : Prop where
  requests : page.requests.length ≤ 1
  sockets : ∀ first second, LiveSocketAt page first → LiveSocketAt page second → first = second
  timers : page.timers.length ≤ 1
  lawful : Lawful ConnectionRule page.log
  tickets : Lawful TicketRule page.log

/-- A ticket that arrives in a session was requested in that session. -/
def TicketInSession (page : Connection) : ConnectionInput → Prop
  | .ticketAnswer index (.body (some ticket)) => ticket ≠ "" → page.active = true →
      ∀ requested, page.requests[index]? = some requested → requested = page.session
  | _ => True

/-- The fields of the page explain the requests, the sockets, the timers, and the log. -/
structure ConnectionFits (page : Connection) : Prop where
  requests : page.requests.length = page.connecting.toNat
  sockets : ∀ socket, LiveSocketAt page socket → page.ws = some socket
  timers : page.timers = page.reconnectTimer.toList
  least : reconnectBaseMs ≤ page.reconnectDelay
  most : page.reconnectDelay ≤ reconnectMaxMs
  delay : page.active = true → page.reconnectDelay = nextDelay page.log
  active : page.active = page.session.isSome
  waiting : page.active = false → page.reconnectTimer = none
  session : page.session = currentSession page.log
  lawful : Lawful ConnectionRule page.log

theorem base_le_max : reconnectBaseMs ≤ reconnectMaxMs := by
  decide

section Operations

variable (page : Connection)

/-- The page is active exactly during a session of its log. -/
theorem active_iff (fits : ConnectionFits page) :
    page.active = true ↔ currentSession page.log ≠ none := by
  rw [fits.active, fits.session]
  simp [Option.isSome_iff_ne_none]

theorem requestSessionCheck_fits (fits : ConnectionFits page) :
    ConnectionFits page.requestSessionCheck :=
  { fits with lawful := ⟨trivial, fits.lawful⟩ }

/-- A request for a ticket belongs to the present session. -/
theorem initializeWebSocket_fits (fits : ConnectionFits page) :
    ConnectionFits page.initializeWebSocket := by
  unfold Connection.initializeWebSocket
  split
  · exact fits
  · rename_i idle
    split
    · exact fits
    · have requests := fits.requests
      simp only [Bool.or_eq_true, not_or, Bool.not_eq_true] at idle
      rw [idle.2] at requests
      have asked : (page.requests ++ [page.session]).length = 1 := by
        rw [List.length_append, requests]
        rfl
      exact { fits with requests := asked }

/-- A reconnection belongs to the present session. -/
theorem reconnect_fits (fits : ConnectionFits page) : ConnectionFits page.reconnect := by
  unfold Connection.reconnect
  split
  · exact fits
  · rename_i idle
    simp only [Bool.or_eq_true, not_or, Bool.not_eq_true, Bool.not_eq_false',
      Option.isSome_eq_false_iff, Option.isNone_iff_eq_none] at idle
    have active := idle.1
    have timers : page.timers ++ [page.timerIds] = [page.timerIds] := by
      rw [fits.timers, idle.2]
      rfl
    have least : reconnectBaseMs ≤ min (page.reconnectDelay * 2) reconnectMaxMs := by
      have before := fits.least
      unfold reconnectBaseMs reconnectMaxMs at *
      omega
    exact { fits with
      timers := timers
      least := least
      most := Nat.min_le_right _ _
      delay := fun _ => rfl
      waiting := fun stopped => absurd (active.symm.trans stopped) (by decide)
      lawful := ⟨⟨fits.delay active, fits.least, fits.most⟩, fits.lawful⟩ }

/-- A socket that closes is not live. -/
theorem live_close (state : ReadyState) : state.close.live = false := by
  cases state <;> rfl

/-- Closing the socket of the page leaves no live socket. -/
theorem closeSocket_dead (fits : ConnectionFits page) (socket : Nat) :
    ¬ LiveSocketAt page.closeSocket socket := by
  rintro ⟨state, found, live⟩
  unfold Connection.closeSocket at found
  split at found
  · rename_i absent
    have kept := fits.sockets socket ⟨state, found, live⟩
    rw [absent] at kept
    simp at kept
  · rename_i own present
    simp only [List.getElem?_modify, Option.map_eq_map, Option.map_eq_some_iff] at found
    obtain ⟨before, held, closed⟩ := found
    by_cases same : own = socket
    · rw [if_pos same] at closed
      rw [← closed, live_close] at live
      simp at live
    · rw [if_neg same] at closed
      have kept := fits.sockets socket ⟨before, held, closed ▸ live⟩
      rw [present, Option.some.injEq] at kept
      exact same kept

/-- Closing the socket changes nothing but the sockets. -/
theorem closeSocket_frame : page.closeSocket.requests = page.requests ∧
    page.closeSocket.connecting = page.connecting ∧ page.closeSocket.timers = page.timers ∧
    page.closeSocket.reconnectTimer = page.reconnectTimer ∧
    page.closeSocket.reconnectDelay = page.reconnectDelay ∧
    page.closeSocket.active = page.active ∧ page.closeSocket.session = page.session ∧
    page.closeSocket.log = page.log := by
  unfold Connection.closeSocket
  split <;> exact ⟨rfl, rfl, rfl, rfl, rfl, rfl, rfl, rfl⟩

/-- A new socket takes the place of the old one. -/
theorem openSocket_fits (ticket : String) (requested : Option Nat) (fits : ConnectionFits page)
    (active : page.active = true) : ConnectionFits (page.openSocket ticket requested) := by
  obtain ⟨requests, connecting, timers, timer, delay, running, session, log⟩ :=
    closeSocket_frame page
  have current := (active_iff page fits).mp active
  unfold Connection.openSocket
  dsimp only
  constructor
  · show page.closeSocket.requests.length = page.closeSocket.connecting.toNat
    rw [requests, connecting]
    exact fits.requests
  · rintro socket ⟨state, found, live⟩
    show some page.closeSocket.sockets.length = some socket
    rw [List.getElem?_append] at found
    split at found
    · exact absurd ⟨state, found, live⟩ (closeSocket_dead page fits socket)
    · rename_i outside
      have bound := (List.getElem?_eq_some_iff.mp found).1
      rw [List.length_singleton] at bound
      congr 1
      omega
  · show page.closeSocket.timers = page.closeSocket.reconnectTimer.toList
    rw [timers, timer]
    exact fits.timers
  · show reconnectBaseMs ≤ page.closeSocket.reconnectDelay
    rw [delay]
    exact fits.least
  · show page.closeSocket.reconnectDelay ≤ reconnectMaxMs
    rw [delay]
    exact fits.most
  · intro _
    show page.closeSocket.reconnectDelay = nextDelay page.closeSocket.log
    rw [delay, log]
    exact fits.delay active
  · show page.closeSocket.active = page.closeSocket.session.isSome
    rw [running, session]
    exact fits.active
  · show page.closeSocket.active = false → page.closeSocket.reconnectTimer = none
    rw [running, timer]
    exact fits.waiting
  · show page.closeSocket.session = currentSession page.closeSocket.log
    rw [session, log]
    exact fits.session
  · show Lawful ConnectionRule (.opened ticket requested :: page.closeSocket.log)
    rw [log]
    exact ⟨current, fits.lawful⟩

/-- A change of the sockets that brings none to life keeps the connection fit. -/
theorem sockets_fits (sockets : List ReadyState) (fits : ConnectionFits page)
    (fewer : ∀ socket state, sockets[socket]? = some state → state.live = true →
      LiveSocketAt page socket) : ConnectionFits { page with sockets := sockets } := by
  have kept : ∀ socket, LiveSocketAt { page with sockets := sockets } socket →
      page.ws = some socket := by
    rintro socket ⟨state, found, live⟩
    exact fits.sockets socket (fewer socket state found live)
  exact { fits with sockets := kept }

/-- The answer to a request for a ticket keeps the connection in step with the log. -/
theorem ticketAnswer_fits (index : Nat) (answer : TicketAnswer) (fits : ConnectionFits page) :
    ConnectionFits (page.ticketAnswer index answer) := by
  unfold Connection.ticketAnswer
  split
  · exact fits
  · rename_i requested found
    have answered : ConnectionFits { page with
        connecting := false
        requests := page.requests.eraseIdx index } := by
      have bound := (List.getElem?_eq_some_iff.mp found).1
      have single := Bool.toNat_le page.connecting
      have asked : (page.requests.eraseIdx index).length = 0 := by
        rw [List.length_eraseIdx_of_lt bound, fits.requests]
        omega
      exact { fits with requests := asked }
    dsimp only
    split
    · exact requestSessionCheck_fits _ answered
    · split
      · exact reconnect_fits _ answered
      · exact answered
    · split
      · exact answered
      · split
        · rename_i active
          exact openSocket_fits _ _ _ answered active
        · exact answered

/-- A socket that opens keeps the connection in step with the log. -/
theorem onopen_fits (socket : Nat) (fits : ConnectionFits page) :
    ConnectionFits (page.onopen socket) := by
  unfold Connection.onopen
  split
  · rename_i connecting
    apply sockets_fits page _ fits
    intro other state found live
    by_cases same : socket = other
    · rw [← same]
      exact ⟨.connecting, connecting, rfl⟩
    · rw [List.getElem?_set_ne same] at found
      exact ⟨state, found, live⟩
  · exact fits

/-- A message keeps the connection in step with the log. -/
theorem onmessage_fits (socket : Nat) (fits : ConnectionFits page) :
    ConnectionFits (page.onmessage socket) := by
  unfold Connection.onmessage
  split
  · exact { fits with
      least := Nat.le_refl _
      most := base_le_max
      delay := fun _ => rfl
      lawful := ⟨trivial, fits.lawful⟩ }
  · exact fits

theorem socketClosing_fits (socket : Nat) (fits : ConnectionFits page) :
    ConnectionFits (page.socketClosing socket) := by
  apply sockets_fits page _ fits
  intro other state found live
  simp only [List.getElem?_modify, Option.map_eq_map, Option.map_eq_some_iff] at found
  obtain ⟨before, held, closed⟩ := found
  by_cases same : socket = other
  · rw [if_pos same] at closed
    rw [← closed, live_close] at live
    simp at live
  · rw [if_neg same] at closed
    exact ⟨before, held, closed ▸ live⟩

/-- A dead socket that tells of its end keeps the connection in step with the log. -/
theorem onclose_fits (socket : Nat) (code : Nat) (fits : ConnectionFits page)
    (dead : ¬ LiveSocketAt page socket) : ConnectionFits (page.onclose socket code) := by
  unfold Connection.onclose
  split
  · exact fits
  · rename_i own
    rw [ne_eq, not_not] at own
    split
    · exact fits
    · have none_live : ∀ other, ¬ LiveSocketAt page other := by
        intro other live
        have held := fits.sockets other live
        rw [own, Option.some.injEq] at held
        exact dead (held ▸ live)
      have gone : ConnectionFits { page with ws := none } :=
        { fits with sockets := fun other live => absurd live (none_live other) }
      dsimp only
      split
      · exact requestSessionCheck_fits _ gone
      · exact reconnect_fits _ gone

/-- The end of a socket keeps the connection in step with the log. -/
theorem socketClose_fits (socket : Nat) (code : Nat) (fits : ConnectionFits page) :
    ConnectionFits (page.socketClose socket code) := by
  unfold Connection.socketClose
  split
  · exact fits
  · exact fits
  · rename_i state _ found
    have bound := (List.getElem?_eq_some_iff.mp found).1
    apply onclose_fits
    · apply sockets_fits page _ fits
      intro other later held live
      by_cases same : socket = other
      · rw [← same, List.getElem?_set_self bound, Option.some.injEq] at held
        rw [← held] at live
        simp [ReadyState.live] at live
      · rw [List.getElem?_set_ne same] at held
        exact ⟨later, held, live⟩
    · rintro ⟨later, held, live⟩
      have closed := (List.getElem?_set_self bound).symm.trans held
      rw [Option.some.injEq] at closed
      rw [← closed] at live
      simp [ReadyState.live] at live

/-- A timer that elapses keeps the connection in step with the log. -/
theorem timer_fits (id : Nat) (fits : ConnectionFits page) : ConnectionFits (page.timer id) := by
  unfold Connection.timer
  split
  · rename_i pending
    rw [fits.timers, Option.mem_toList] at pending
    have active : page.active = true := by
      by_contra stopped
      rw [fits.waiting (by simpa using stopped)] at pending
      simp at pending
    have timers : page.timers.erase id = [] := by
      rw [fits.timers, pending]
      simp
    apply initializeWebSocket_fits
    exact { fits with
      timers := timers
      waiting := fun _ => rfl
      lawful := ⟨(active_iff page fits).mp active, fits.lawful⟩ }
  · exact fits

/-- A sign-in starts the connection of its session. -/
theorem start_fits (session : Option Nat) (fits : ConnectionFits page) :
    ConnectionFits (page.start session) := by
  unfold Connection.start
  split
  · exact fits
  · split
    · exact reconnect_fits page fits
    · apply initializeWebSocket_fits
      exact { fits with
        least := Nat.le_refl _
        most := base_le_max
        delay := fun _ => rfl
        active := rfl
        waiting := fun stopped => absurd stopped Bool.noConfusion
        session := rfl
        lawful := ⟨trivial, fits.lawful⟩ }

/-- A sign-out ends the connection of its session. -/
theorem stop_fits (fits : ConnectionFits page) : ConnectionFits page.stop := by
  obtain ⟨requests, connecting, _⟩ := closeSocket_frame page
  constructor
  · show page.closeSocket.requests.length = page.closeSocket.connecting.toNat
    rw [requests, connecting]
    exact fits.requests
  · intro socket live
    exact absurd live (closeSocket_dead page fits socket)
  · show page.reconnectTimer.elim page.timers page.timers.erase = []
    rw [fits.timers]
    cases page.reconnectTimer <;> simp
  · exact Nat.le_refl _
  · exact base_le_max
  · intro active
    have stopped : page.stop.active = false := rfl
    rw [stopped] at active
    simp at active
  · rfl
  · intro _
    rfl
  · rfl
  · exact ⟨trivial, fits.lawful⟩

/-- Every step keeps the connection in step with the log. -/
theorem step_fits (input : ConnectionInput) (fits : ConnectionFits page) :
    ConnectionFits (page.step input) := by
  cases input with
  | start session => exact start_fits page session fits
  | stop => exact stop_fits page fits
  | ticketAnswer index answer => exact ticketAnswer_fits page index answer fits
  | socketOpen socket => exact onopen_fits page socket fits
  | socketMessage socket => exact onmessage_fits page socket fits
  | socketClosing socket => exact socketClosing_fits page socket fits
  | socketClose socket code => exact socketClose_fits page socket code fits
  | timer id => exact timer_fits page id fits

end Operations

/-- After every history the connection is in step with the log. -/
theorem connectionAfter_fits (history : List ConnectionInput) :
    ConnectionFits (connectionAfter history) := by
  induction history with
  | nil =>
      constructor
      · rfl
      · rintro socket ⟨state, found, _⟩
        simp [connectionAfter] at found
      · rfl
      · exact Nat.le_refl _
      · exact base_le_max
      · intro _
        rfl
      · rfl
      · intro _
        rfl
      · rfl
      · trivial
  | cons input earlier ih => exact step_fits _ input ih

section Tickets

variable (page : Connection)

theorem initializeWebSocket_log : page.initializeWebSocket.log = page.log := by
  unfold Connection.initializeWebSocket
  split
  · rfl
  · split <;> rfl

/-- A reconnect opens no socket. -/
theorem reconnect_tickets :
    Lawful TicketRule page.reconnect.log ↔ Lawful TicketRule page.log := by
  unfold Connection.reconnect
  split
  · exact Iff.rfl
  · exact and_iff_right trivial

/-- The end of a socket uses no ticket. -/
theorem onclose_tickets (socket : Nat) (code : Nat) :
    Lawful TicketRule (page.onclose socket code).log ↔ Lawful TicketRule page.log := by
  unfold Connection.onclose
  split
  · exact Iff.rfl
  · split
    · exact Iff.rfl
    · dsimp only
      split
      · exact and_iff_right trivial
      · exact reconnect_tickets _

/-- A new socket needs a ticket of the current session. -/
theorem openSocket_tickets (ticket : String) (requested : Option Nat)
    (session : page.session = currentSession page.log) :
    Lawful TicketRule (page.openSocket ticket requested).log ↔
      requested = page.session ∧ Lawful TicketRule page.log := by
  obtain ⟨_, _, _, _, _, _, _, log⟩ := closeSocket_frame page
  unfold Connection.openSocket
  dsimp only
  rw [log, session]
  exact Iff.rfl

/-- A ticket is used lawfully exactly if its session lasts when it arrives. -/
theorem ticketAnswer_tickets (index : Nat) (answer : TicketAnswer)
    (session : page.session = currentSession page.log) :
    Lawful TicketRule (page.ticketAnswer index answer).log ↔
      TicketInSession page (.ticketAnswer index answer) ∧ Lawful TicketRule page.log := by
  unfold Connection.ticketAnswer
  cases found : page.requests[index]? with
  | none =>
      have inSession : TicketInSession page (.ticketAnswer index answer) := by
        cases answer with
        | unauthenticated => trivial
        | failed => trivial
        | body ticket =>
            cases ticket with
            | none => trivial
            | some text =>
                intro _ _ requested present
                simp [found] at present
      exact (and_iff_right inSession).symm
  | some requested =>
      dsimp only
      cases answer with
      | unauthenticated => exact Iff.rfl
      | failed =>
          dsimp only
          split
          · exact (reconnect_tickets _).trans (and_iff_right trivial).symm
          · exact (and_iff_right trivial).symm
      | body ticket =>
          cases ticket with
          | none => exact (and_iff_right trivial).symm
          | some text =>
              dsimp only
              by_cases empty : text = ""
              · simp [TicketInSession, empty, Option.filter]
              · have issued : (some text).filter (fun text => decide (text ≠ "")) = some text := by
                  simp [empty, Option.filter]
                rw [issued]
                dsimp only
                by_cases active : page.active = true
                · rw [if_pos active]
                  have rule := openSocket_tickets { page with
                    connecting := false
                    requests := page.requests.eraseIdx index } text requested session
                  rw [rule]
                  simp [TicketInSession, empty, active, found]
                · rw [if_neg active]
                  simp [TicketInSession, active]

/-- A step keeps the rule of the tickets exactly when it opens no socket with a ticket of another
session. -/
theorem step_tickets (input : ConnectionInput) (session : page.session = currentSession page.log) :
    Lawful TicketRule (page.step input).log ↔
      TicketInSession page input ∧ Lawful TicketRule page.log := by
  cases input with
  | ticketAnswer index answer => exact ticketAnswer_tickets page index answer session
  | start current =>
      show Lawful TicketRule (page.start current).log ↔ True ∧ _
      unfold Connection.start
      split
      · exact (and_iff_right trivial).symm
      · split
        · rw [reconnect_tickets, true_and]
        · rw [initializeWebSocket_log]
          exact Iff.rfl
  | stop => exact Iff.rfl
  | socketOpen socket =>
      show Lawful TicketRule (page.onopen socket).log ↔ True ∧ _
      unfold Connection.onopen
      split <;> exact (and_iff_right trivial).symm
  | socketMessage socket =>
      show Lawful TicketRule (page.onmessage socket).log ↔ True ∧ _
      unfold Connection.onmessage
      split
      · exact Iff.rfl
      · exact (and_iff_right trivial).symm
  | socketClosing socket => exact (and_iff_right trivial).symm
  | socketClose socket code =>
      show Lawful TicketRule (page.socketClose socket code).log ↔ True ∧ _
      unfold Connection.socketClose
      split
      · exact (and_iff_right trivial).symm
      · exact (and_iff_right trivial).symm
      · rw [onclose_tickets, true_and]
  | timer id =>
      show Lawful TicketRule (page.timer id).log ↔ True ∧ _
      unfold Connection.timer
      split
      · rw [initializeWebSocket_log]
        exact Iff.rfl
      · exact (and_iff_right trivial).symm

end Tickets

/-- The tickets of a run are those of their sessions exactly when each arrives in its session. -/
theorem tickets_iff (history : List ConnectionInput) :
    Lawful TicketRule (connectionAfter history).log ↔
      Guarded Connection.step {} TicketInSession history := by
  induction history with
  | nil => exact Iff.rfl
  | cons input earlier ih =>
      have fits := connectionAfter_fits earlier
      show Lawful TicketRule ((connectionAfter earlier).step input).log ↔ _
      rw [step_tickets _ input fits.session, ih]
      exact and_comm

/-- The protocol holds after every step of a run exactly when no ticket of the run arrives in
another session than the one it was requested in. -/
theorem connectionHolds_iff (history : List ConnectionInput) :
    (∀ earlier, earlier <:+ history → ConnectionHolds (connectionAfter earlier)) ↔
      Guarded Connection.step {} TicketInSession history := by
  constructor
  · intro holds
    exact (tickets_iff history).mp (holds history List.suffix_rfl).tickets
  · intro guarded earlier suffix
    have fits := connectionAfter_fits earlier
    constructor
    · rw [fits.requests]
      exact Bool.toNat_le _
    · intro first second live other
      have same := (fits.sockets first live).symm.trans (fits.sockets second other)
      exact Option.some.inj same
    · rw [fits.timers]
      cases (connectionAfter earlier).reconnectTimer <;> simp
    · exact fits.lawful
    · exact (tickets_iff earlier).mpr (guarded.suffix _ _ _ _ _ suffix)

/-- The operator signs out and in again while a ticket is on its way. -/
def lateTicket : List ConnectionInput :=
  [.ticketAnswer 0 (.body (some "first")), .start (some 2), .stop, .start (some 1)]

/-- The socket of the second session is opened with the ticket of the first one. -/
theorem connectionHolds_fails : ¬ ConnectionHolds (connectionAfter lateTicket) := by
  intro holds
  have rule : some 1 = some 2 := holds.tickets.1
  simp at rule

end OperationsConsole.Browser
