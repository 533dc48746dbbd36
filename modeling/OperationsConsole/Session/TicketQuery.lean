/-
This file embeds `take_ws_ticket` of `dashboard/session_auth.py` on the scope of a connection.
A fast test on the raw bytes decides whether the query string is parsed at all.
-/

import OperationsConsole.Redaction.QueryString

namespace OperationsConsole.Session

open Redaction (Text parseQsl urlencode isAscii)

/-- The server describes a connection with its type, its query string, and other items. The console
adds the ticket under a key of its own. -/
structure Scope (α : Type) where
  type : Option String
  queryString : Option (List UInt8)
  ticket : Option Text
  others : α
  deriving DecidableEq

/-- Every byte is the character of its number. -/
def decodeLatin1 (bytes : List UInt8) : Text := bytes.map fun byte => Char.ofNat byte.toNat

/-- Only the first 256 characters have a byte. -/
def encodeLatin1 (text : Text) : Option (List UInt8) :=
  text.mapM fun symbol => if symbol.toNat < 256 then some symbol.toNat.toUInt8 else none

def ticketName : Text := "ticket".toList

/-- These are the bytes of `ticket`. -/
def ticketBytes : List UInt8 := [0x74, 0x69, 0x63, 0x6B, 0x65, 0x74]

/-- The first ticket and the parameters that are kept. -/
structure Taken where
  ticket : Option Text := none
  kept : List (Text × Text) := []

def takeParameter (taken : Taken) (pair : Text × Text) : Taken :=
  if pair.1 = ticketName then
    { taken with ticket := if taken.ticket = none then some pair.2 else taken.ticket }
  else { taken with kept := taken.kept ++ [pair] }

/-- There is no result when the new query string cannot be encoded. -/
def takeWsTicket {α : Type} (scope : Scope α) : Option (Scope α) :=
  if scope.type ≠ some "websocket" then some scope
  else
    let raw := scope.queryString.getD []
    if ¬ticketBytes <:+: raw then some scope
    else
      let taken := (parseQsl (decodeLatin1 raw)).foldl takeParameter {}
      (encodeLatin1 (urlencode taken.kept)).map fun encoded =>
        let stripped := { scope with queryString := some encoded }
        match taken.ticket with
        | some ticket => { stripped with ticket := some ticket }
        | none => stripped

/-- The parameters of a query string, as the framework reads them. -/
def parameters {α : Type} (scope : Scope α) : List (Text × Text) :=
  parseQsl (decodeLatin1 (scope.queryString.getD []))

/-- The value of the first ticket among some parameters. -/
def firstTicket (parameters : List (Text × Text)) : Option Text :=
  (parameters.find? fun pair => pair.1 = ticketName).map Prod.snd

/-- The loop takes the first ticket and keeps the other parameters in their order. -/
theorem foldl_takeParameter (pairs : List (Text × Text)) (taken : Taken) :
    pairs.foldl takeParameter taken =
      ⟨taken.ticket.or (firstTicket pairs),
        taken.kept ++ pairs.filter fun pair => pair.1 ≠ ticketName⟩ := by
  induction pairs generalizing taken with
  | nil => simp [firstTicket]
  | cons pair rest ih =>
      rw [List.foldl_cons, ih]
      unfold takeParameter firstTicket
      by_cases named : pair.1 = ticketName
      · cases taken.ticket <;> simp [named]
      · simp [named]

/-- ASCII texts survive the encoding and the decoding. -/
theorem encodeLatin1_ascii (text : Text) (ascii : text.all isAscii = true) :
    ∃ encoded, encodeLatin1 text = some encoded ∧ decodeLatin1 encoded = text := by
  induction text with
  | nil => exact ⟨[], rfl, rfl⟩
  | cons symbol rest ih =>
      rw [List.all_cons, Bool.and_eq_true] at ascii
      have small : symbol.toNat < 128 := of_decide_eq_true ascii.1
      have byte : symbol.toNat.toUInt8.toNat = symbol.toNat :=
        Redaction.toNat_ofNat_byte symbol.toNat (by omega)
      obtain ⟨encoded, written, read⟩ := ih ascii.2
      refine ⟨symbol.toNat.toUInt8 :: encoded, ?_, ?_⟩
      · unfold encodeLatin1 at written ⊢
        rw [List.mapM_cons, written, if_pos (by omega)]
        rfl
      · unfold decodeLatin1 at read ⊢
        rw [List.map_cons, read, byte, Char.ofNat_toNat]

variable {α : Type} (scope : Scope α)

/-- The call takes every ticket out of the query string and changes nothing else. -/
structure TakesTickets (after : Scope α) : Prop where
  result : takeWsTicket scope = some after
  gone : ∀ pair ∈ parameters after, pair.1 ≠ ticketName
  kept : parameters after = (parameters scope).filter fun pair => pair.1 ≠ ticketName
  held : after.ticket = (firstTicket (parameters scope)).or scope.ticket
  others : after.type = scope.type ∧ after.others = scope.others
  again : takeWsTicket after = some after

/-- A query string with the bytes of the name is rewritten without its tickets. -/
theorem takeWsTicket_parsed (websocket : scope.type = some "websocket")
    (listed : ticketBytes <:+: scope.queryString.getD []) :
    ∃ encoded, takeWsTicket scope = some { scope with
        queryString := some encoded
        ticket := (firstTicket (parameters scope)).or scope.ticket } ∧
      encodeLatin1 (urlencode ((parameters scope).filter fun pair => pair.1 ≠ ticketName)) =
        some encoded ∧
      parseQsl (decodeLatin1 encoded) =
        (parameters scope).filter fun pair => pair.1 ≠ ticketName := by
  obtain ⟨encoded, written, read⟩ := encodeLatin1_ascii
    (urlencode ((parameters scope).filter fun pair => pair.1 ≠ ticketName))
    (Redaction.urlencode_ascii _)
  refine ⟨encoded, ?_, written, ?_⟩
  · unfold takeWsTicket
    rw [if_neg (not_not.mpr websocket)]
    dsimp only
    rw [if_neg (not_not.mpr listed), foldl_takeParameter]
    dsimp only
    rw [List.nil_append, Option.none_or]
    change Option.map _ (encodeLatin1 (urlencode ((parameters scope).filter fun pair =>
      pair.1 ≠ ticketName))) = _
    rw [written, Option.map_some]
    change some (match firstTicket (parameters scope) with
      | some ticket => _
      | none => _) = _
    cases firstTicket (parameters scope) <;> rfl
  · rw [read, Redaction.parseQsl_urlencode]

theorem firstTicket_eq_none (pairs : List (Text × Text))
    (free : ∀ pair ∈ pairs, pair.1 ≠ ticketName) : firstTicket pairs = none := by
  rw [firstTicket, Option.map_eq_none_iff, List.find?_eq_none]
  intro pair member named
  exact free pair member (of_decide_eq_true named)

/-- A query string that lacks the bytes of the name is left alone. -/
theorem takeWsTicket_skipped (unlisted : ¬ticketBytes <:+: scope.queryString.getD []) :
    takeWsTicket scope = some scope := by
  unfold takeWsTicket
  split
  · rfl
  · exact if_pos unlisted

/-- A call on a query string without tickets changes nothing, if it has been rewritten before. -/
theorem takeWsTicket_again (encoded : List UInt8) (query : List (Text × Text))
    (websocket : scope.type = some "websocket") (rewritten : scope.queryString = some encoded)
    (written : encodeLatin1 (urlencode query) = some encoded)
    (read : parameters scope = query) (free : ∀ pair ∈ query, pair.1 ≠ ticketName) :
    takeWsTicket scope = some scope := by
  by_cases listed : ticketBytes <:+: scope.queryString.getD []
  · obtain ⟨later, result, same, _⟩ := takeWsTicket_parsed scope websocket listed
    have unchanged : (query.filter fun pair => pair.1 ≠ ticketName) = query :=
      List.filter_eq_self.mpr fun pair member => decide_eq_true (free pair member)
    rw [read, unchanged, written, Option.some.injEq] at same
    rw [result, read, firstTicket_eq_none query free, Option.none_or, ← same, ← rewritten]
  · exact takeWsTicket_skipped scope listed

/-- The tickets are taken exactly when the raw bytes show the name or no parameter has it. -/
theorem takesTickets_iff (websocket : scope.type = some "websocket") :
    (∃ after, TakesTickets scope after) ↔
      ticketBytes <:+: scope.queryString.getD [] ∨
        ∀ pair ∈ parameters scope, pair.1 ≠ ticketName := by
  constructor
  · rintro ⟨after, taken⟩
    by_cases listed : ticketBytes <:+: scope.queryString.getD []
    · exact .inl listed
    · have same := taken.result
      rw [takeWsTicket_skipped scope listed, Option.some.injEq] at same
      exact .inr (same ▸ taken.gone)
  · intro condition
    by_cases listed : ticketBytes <:+: scope.queryString.getD []
    · obtain ⟨encoded, result, written, read⟩ := takeWsTicket_parsed scope websocket listed
      have free : ∀ pair ∈ (parameters scope).filter fun pair => pair.1 ≠ ticketName,
          pair.1 ≠ ticketName := fun pair member =>
        of_decide_eq_true (List.mem_filter.mp member).2
      exact ⟨_, result, fun pair member => free pair (read ▸ member), read, rfl, ⟨rfl, rfl⟩,
        takeWsTicket_again _ encoded _ websocket rfl written read free⟩
    · have free := condition.resolve_left listed
      have skipped := takeWsTicket_skipped scope listed
      refine ⟨scope, skipped, free, ?_, ?_, ⟨rfl, rfl⟩, skipped⟩
      · rw [List.filter_eq_self.mpr fun pair member => decide_eq_true (free pair member)]
      · rw [firstTicket_eq_none _ free, Option.none_or]

/-- A scope with the query string `a=1&ticket=SECRET&b=2`. -/
def plainScope : Scope Unit :=
  ⟨some "websocket", some [0x61, 0x3D, 0x31, 0x26, 0x74, 0x69, 0x63, 0x6B, 0x65, 0x74, 0x3D, 0x53,
    0x45, 0x43, 0x52, 0x45, 0x54, 0x26, 0x62, 0x3D, 0x32], none, ()⟩

/-- A plain ticket is taken. -/
theorem takesTickets_plain : ∃ after, TakesTickets plainScope after :=
  (takesTickets_iff plainScope rfl).mpr (.inl (by decide))

/-- A scope with the query string `%74icket=SECRET`. -/
def escapedScope : Scope Unit :=
  ⟨some "websocket", some [0x25, 0x37, 0x34, 0x69, 0x63, 0x6B, 0x65, 0x74, 0x3D, 0x53, 0x45, 0x43,
    0x52, 0x45, 0x54], none, ()⟩

/-- A ticket whose name is escaped stays in the query string. -/
theorem takesTickets_fails : ¬∃ after, TakesTickets escapedScope after := by
  rintro ⟨after, taken⟩
  have same : takeWsTicket escapedScope = some escapedScope :=
    takeWsTicket_skipped escapedScope (by decide)
  have result := taken.result
  rw [same, Option.some.injEq] at result
  have listed : (ticketName, "SECRET".toList) ∈ parameters escapedScope := by
    decide +kernel
  exact taken.gone _ (result ▸ listed) rfl

end OperationsConsole.Session
