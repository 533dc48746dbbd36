/-
This file embeds the redaction of WebSocket tickets in log records. Two texts are redacted alike
exactly when they differ in the values of tickets only.
-/

import Mathlib.Logic.Relation
import OperationsConsole.Library.Ascii
import OperationsConsole.Library.Rewriting
import OperationsConsole.Redaction.UrlRedaction

namespace OperationsConsole.Session

open Library
open Redaction (Text isSpace)

section Filter

def ticketMark : Text := "ticket=".toList

/-- The value of a ticket ends before these characters. -/
def endsTicket (symbol : Char) : Bool :=
  symbol == '&' || isSpace symbol || symbol == '"' || symbol == '\''

def redactedTicket : Text := "[redacted]".toList

/-- `_TICKET_IN_TEXT` takes a mark and a value that is not empty. -/
def ticketInText (text : Text) : Option (Match Char) :=
  let value := before endsTicket (text.drop ticketMark.length)
  if ticketMark <+: text ∧ value ≠ [] then
    some ⟨ticketMark ++ redactedTicket, ticketMark.length + value.length, 0⟩
  else none

def redactTickets : Text → Text := rewrite ticketInText

/-- A record is rendered from its format and its arguments, or it is malformed. -/
structure LogRecord (α : Type) where
  msg : α
  args : Option α

/-- The rendering of a record is the library's. A record without arguments renders its text. -/
structure Rendering (α : Type) where
  text : Text → α
  getMessage : LogRecord α → Option Text
  getMessage_text : ∀ message, getMessage ⟨text message, none⟩ = some message

/-- This is `filter` of `TicketRedactingFilter`. A record is never dropped. -/
def ticketFilter {α : Type} (rendering : Rendering α) (record : LogRecord α) : Bool × LogRecord α :=
  match rendering.getMessage record with
  | none => (true, record)
  | some message =>
      if ticketMark <:+: message then (true, ⟨rendering.text (redactTickets message), none⟩)
      else (true, record)

def requestTargetLoggers : List String :=
  ["uvicorn", "uvicorn.error", "uvicorn.access", "uvicorn.asgi", "websockets", "websockets.server"]

/-- A filter of a logger redacts tickets, or it is another one. -/
inductive LoggerFilter where
  | ticketRedacting
  | other (name : String)
  deriving DecidableEq

def addTicketFilter (filters : List LoggerFilter) : List LoggerFilter :=
  if .ticketRedacting ∈ filters then filters else filters ++ [.ticketRedacting]

def installTicketRedaction (loggers : String → List LoggerFilter) : String → List LoggerFilter :=
  fun name => if name ∈ requestTargetLoggers then addTicketFilter (loggers name) else loggers name

/-- A logger passes a record on through its filters, and each of them may drop it. -/
def runFilters {α : Type} (rendering : Rendering α)
    (others : String → LogRecord α → Bool × LogRecord α) :
    List LoggerFilter → LogRecord α → Option (LogRecord α)
  | [], record => some record
  | filter :: rest, record =>
      let filtered := match filter with
        | .ticketRedacting => ticketFilter rendering record
        | .other name => others name record
      if filtered.1 then runFilters rendering others rest filtered.2 else none

end Filter

section Values

/-- A value that is not empty and holds no end. -/
def IsTicket (value : Text) : Prop := value ≠ [] ∧ ∀ symbol ∈ value, endsTicket symbol = false

/-- The value of a ticket ends with the text or before such a character. -/
def EndsHere (rest : Text) : Prop :=
  rest = [] ∨ ∃ symbol later, rest = symbol :: later ∧ endsTicket symbol = true

/-- The value of one ticket is another. -/
def OneTicket (first second : Text) : Prop :=
  ∃ front value other rest, IsTicket value ∧ IsTicket other ∧ EndsHere rest ∧
    first = front ++ ticketMark ++ value ++ rest ∧ second = front ++ ticketMark ++ other ++ rest

/-- Two texts differ in the values of tickets only. -/
def SameButTickets : Text → Text → Prop := Relation.ReflTransGen OneTicket

theorem OneTicket.symm {first second : Text} (one : OneTicket first second) :
    OneTicket second first := by
  obtain ⟨front, value, other, rest, isValue, isOther, ends, same, otherSame⟩ := one
  exact ⟨front, other, value, rest, isOther, isValue, ends, otherSame, same⟩

theorem SameButTickets.symm {first second : Text} (same : SameButTickets first second) :
    SameButTickets second first := by
  induction same with
  | refl => exact .refl
  | tail _ one ih => exact ih.head one.symm

theorem OneTicket.append {first second : Text} (front : Text) (one : OneTicket first second) :
    OneTicket (front ++ first) (front ++ second) := by
  obtain ⟨earlier, value, other, rest, isValue, isOther, ends, same, otherSame⟩ := one
  refine ⟨front ++ earlier, value, other, rest, isValue, isOther, ends, ?_, ?_⟩
  · simp only [same, List.append_assoc]
  · simp only [otherSame, List.append_assoc]

theorem SameButTickets.append {first second : Text} (front : Text)
    (same : SameButTickets first second) : SameButTickets (front ++ first) (front ++ second) := by
  induction same with
  | refl => exact .refl
  | tail _ one ih => exact ih.tail (one.append front)

theorem before_ticket (value rest : Text) (isTicket : ∀ symbol ∈ value, endsTicket symbol = false)
    (ends : EndsHere rest) : before endsTicket (value ++ rest) = value := by
  rw [before_append _ _ _ isTicket]
  rcases ends with empty | ⟨symbol, later, starts, stops⟩
  · rw [empty]
    exact List.append_nil value
  · rw [starts, before, List.takeWhile_cons_of_neg (by simp [stops]), List.append_nil]

theorem redactTickets_plain (symbol : Char) (rest : Text)
    (plain : ticketInText (symbol :: rest) = none) :
    redactTickets (symbol :: rest) = symbol :: redactTickets rest := by
  rw [redactTickets, rewrite, rewriteFrom, plain]
  rfl

theorem redactTickets_ticket (value rest : Text) (isTicket : IsTicket value)
    (ends : EndsHere rest) :
    redactTickets (ticketMark ++ value ++ rest) =
      ticketMark ++ redactedTicket ++ redactTickets rest := by
  have found : ticketInText (ticketMark ++ value ++ rest) =
      some ⟨ticketMark ++ redactedTicket, ticketMark.length + value.length, 0⟩ := by
    unfold ticketInText
    rw [List.append_assoc, List.drop_left, before_ticket value rest isTicket.2 ends]
    exact if_pos ⟨List.prefix_append _ _, isTicket.1⟩
  obtain ⟨symbol, later, starts⟩ : ∃ symbol later, ticketMark ++ value ++ rest = symbol :: later :=
    ⟨'t', "icket=".toList ++ value ++ rest, rfl⟩
  have cut : later.drop (ticketMark.length + value.length - 1) = rest := by
    have whole : (symbol :: later).drop (ticketMark.length + value.length) = rest := by
      rw [← starts, ← List.length_append, List.drop_left]
    have shorter :
        ticketMark.length + value.length = (ticketMark.length + value.length - 1) + 1 := by
      rw [show ticketMark.length = 7 from rfl]
      omega
    rw [shorter, List.drop_succ_cons] at whole
    exact whole
  rw [starts] at found ⊢
  rw [redactTickets, rewrite, rewriteFrom, found]
  dsimp only
  rw [rewriteFrom_cut, cut]
  rfl

/-- A text begins with a ticket, or its first character is kept. -/
theorem ticket_cases (text : Text) : ticketInText text = none ∨
    ∃ value rest, IsTicket value ∧ EndsHere rest ∧ text = ticketMark ++ value ++ rest := by
  unfold ticketInText
  dsimp only
  by_cases found : ticketMark <+: text ∧ before endsTicket (text.drop ticketMark.length) ≠ []
  · obtain ⟨starts, filled⟩ := found
    refine .inr ⟨_, fromFirst endsTicket (text.drop ticketMark.length), ⟨filled, before_free _ _⟩,
      fromFirst_cases _ _, ?_⟩
    rw [List.append_assoc, before_append_fromFirst]
    exact List.prefix_append_drop starts
  · exact .inl (if_neg found)

/-- A redaction changes the values of tickets only. -/
theorem redactTickets_same (text : Text) : SameButTickets text (redactTickets text) := by
  induction length : text.length using Nat.strongRecOn generalizing text with
  | ind size ih =>
      rcases ticket_cases text with plain | ⟨value, rest, isTicket, ends, whole⟩
      · cases text with
        | nil => exact .refl
        | cons symbol rest =>
            rw [redactTickets_plain symbol rest plain]
            have shorter : rest.length < size := by
              rw [← length]
              exact Nat.lt_succ_self _
            exact (ih rest.length shorter rest rfl).append [symbol]
      · rw [whole, redactTickets_ticket value rest isTicket ends]
        have shorter : rest.length < size := by
          rw [← length, whole, List.length_append, List.length_append,
            show ticketMark.length = 7 from rfl]
          omega
        have one : OneTicket (ticketMark ++ value ++ rest) (ticketMark ++ redactedTicket ++ rest) :=
          ⟨[], value, redactedTicket, rest, isTicket,
            ⟨by decide, forall_of_all _ _ (by decide)⟩, ends, rfl, rfl⟩
        exact ((ih rest.length shorter rest rfl).append (ticketMark ++ redactedTicket)).head one

/-- A mark does not begin inside another one. -/
theorem mark_apart (front rest : Text) (filled : front ≠ [])
    (starts : ticketMark <+: front ++ (ticketMark ++ rest)) : ticketMark <+: front := by
  rcases Nat.lt_or_ge front.length ticketMark.length with short | long
  · exfalso
    have inside := List.prefix_of_prefix_length_le (List.prefix_append front _) starts short.le
    obtain ⟨tail, whole⟩ := inside
    have later : tail <+: ticketMark := by
      rw [← whole, List.append_assoc, List.prefix_append_right_inj, ← List.append_assoc, whole]
        at starts
      apply List.prefix_of_prefix_length_le starts (List.prefix_append ticketMark rest)
      rw [← whole, List.length_append]
      omega
    have cut : ticketMark.drop front.length = tail := by
      rw [← whole, List.drop_left]
    have apart : ∀ count < 7, 0 < count → ¬ ticketMark.drop count <+: ticketMark := by
      decide
    exact apart front.length short (List.length_pos_of_ne_nil filled) (cut ▸ later)
  · exact List.prefix_of_prefix_length_le starts (List.prefix_append front _) long

/-- A mark that no value follows is kept. -/
theorem ticketInText_none (text : Text) (plain : ¬ ticketMark <+: text ∨
    before endsTicket (text.drop ticketMark.length) = []) : ticketInText text = none := by
  unfold ticketInText
  rw [if_neg]
  intro both
  exact plain.elim (fun absent => absent both.1) fun empty => both.2 empty

/-- The value of one ticket has no influence on a redaction. -/
theorem redactTickets_one (front value other rest : Text) (isValue : IsTicket value)
    (isOther : IsTicket other) (ends : EndsHere rest) :
    redactTickets (front ++ (ticketMark ++ value ++ rest)) =
      redactTickets (front ++ (ticketMark ++ other ++ rest)) := by
  induction length : front.length using Nat.strongRecOn generalizing front with
  | ind size ih =>
      cases front with
      | nil =>
          rw [List.nil_append, List.nil_append, redactTickets_ticket value rest isValue ends,
            redactTickets_ticket other rest isOther ends]
      | cons symbol front =>
          have shorter : front.length < size := by
            rw [← length]
            exact Nat.lt_succ_self _
          have step : (∀ value, ticketInText (symbol :: (front ++ (ticketMark ++ value ++ rest))) =
              none) → redactTickets (symbol :: front ++ (ticketMark ++ value ++ rest)) =
                redactTickets (symbol :: front ++ (ticketMark ++ other ++ rest)) := by
            intro plain
            rw [List.cons_append, List.cons_append, redactTickets_plain _ _ (plain value),
              redactTickets_plain _ _ (plain other), ih front.length shorter front rfl]
          by_cases marked : ticketMark <+: symbol :: front
          · obtain ⟨later, whole⟩ := marked
            have cut := before_append_fromFirst endsTicket later
            rcases fromFirst_cases endsTicket later with free | ⟨stop, tail, starts, stops⟩
            · rw [free, List.append_nil] at cut
              have joined : ∀ value, IsTicket value → IsTicket (later ++ ticketMark ++ value) := by
                intro value isTicket
                refine ⟨List.append_ne_nil_of_right_ne_nil _ isTicket.1, ?_⟩
                intro symbol member
                rw [List.mem_append, List.mem_append] at member
                rcases member with (own | mark) | inside
                · exact before_free endsTicket later symbol (cut.symm ▸ own)
                · exact forall_of_all (endsTicket · = false) ticketMark (by decide) symbol mark
                · exact isTicket.2 symbol inside
              have one := redactTickets_ticket _ rest (joined value isValue) ends
              have two := redactTickets_ticket _ rest (joined other isOther) ends
              rw [← whole]
              simp only [List.append_assoc] at one two ⊢
              rw [one, two]
            · rw [starts] at cut
              by_cases empty : before endsTicket later = []
              · apply step
                intro value
                apply ticketInText_none
                right
                rw [← List.cons_append, ← whole, List.append_assoc, List.drop_left, ← cut, empty]
                rw [List.nil_append, List.cons_append, before, List.takeWhile_cons_of_neg]
                simp [stops]
              · have next : (stop :: tail).length < size := by
                  have lengths := congrArg List.length whole
                  have parts := congrArg List.length cut
                  rw [List.length_append, show ticketMark.length = 7 from rfl] at lengths
                  rw [List.length_append] at parts
                  omega
                have ticket : IsTicket (before endsTicket later) := ⟨empty, before_free _ _⟩
                have found : ∀ value, redactTickets (ticketMark ++ later ++
                    (ticketMark ++ value ++ rest)) = ticketMark ++ redactedTicket ++
                      redactTickets (stop :: tail ++ (ticketMark ++ value ++ rest)) := by
                  intro value
                  rw [← redactTickets_ticket (before endsTicket later)
                    (stop :: tail ++ (ticketMark ++ value ++ rest)) ticket
                    (.inr ⟨stop, _, rfl, stops⟩)]
                  conv_lhs => rw [← cut]
                  simp only [List.append_assoc]
                rw [← whole, found value, found other, ih _ next (stop :: tail) rfl]
          · apply step
            intro value
            apply ticketInText_none
            left
            intro starts
            apply marked
            apply mark_apart (symbol :: front) (value ++ rest) (List.cons_ne_nil _ _)
            rw [List.cons_append, ← List.append_assoc ticketMark]
            exact starts

/-- Two texts are redacted alike exactly when they differ in the values of tickets only. -/
theorem redactTickets_eq_iff (first second : Text) :
    redactTickets first = redactTickets second ↔ SameButTickets first second := by
  constructor
  · intro same
    exact (redactTickets_same first).trans (same ▸ (redactTickets_same second).symm)
  · intro same
    induction same with
    | refl => rfl
    | tail _ one ih =>
        obtain ⟨front, value, other, rest, isValue, isOther, ends, same, otherSame⟩ := one
        rw [ih, same, otherSame, List.append_assoc, List.append_assoc, List.append_assoc front,
          List.append_assoc front]
        have one := redactTickets_one front value other rest isValue isOther ends
        rw [List.append_assoc, List.append_assoc] at one
        exact one

end Values

section Records

theorem redactTickets_absent (message : Text) (absent : ¬ ticketMark <:+: message) :
    redactTickets message = message := by
  induction message with
  | nil => rfl
  | cons symbol rest ih =>
      rw [List.infix_cons_iff, not_or] at absent
      rw [redactTickets_plain symbol rest (ticketInText_none _ (.inl absent.1)), ih absent.2]

variable {α : Type} (rendering : Rendering α)

/-- What is logged of a record is its message with the tickets redacted. -/
theorem ticketFilter_message (record : LogRecord α) :
    rendering.getMessage (ticketFilter rendering record).2 =
      (rendering.getMessage record).map redactTickets := by
  unfold ticketFilter
  cases rendered : rendering.getMessage record with
  | none => exact rendered
  | some message =>
      dsimp only
      split
      · exact rendering.getMessage_text _
      · rename_i absent
        rw [Option.map_some, redactTickets_absent message absent]
        exact rendered

/-- The filter drops no record. -/
theorem ticketFilter_keeps (record : LogRecord α) : (ticketFilter rendering record).1 = true := by
  unfold ticketFilter
  split
  · rfl
  · split <;> rfl

/-- The messages of two records are logged the same exactly when they differ in the values of tickets
only. -/
theorem message_ticketFilter_iff (first second : LogRecord α) :
    rendering.getMessage (ticketFilter rendering first).2 =
        rendering.getMessage (ticketFilter rendering second).2 ↔
      Option.Rel SameButTickets (rendering.getMessage first) (rendering.getMessage second) := by
  rw [ticketFilter_message, ticketFilter_message]
  cases rendering.getMessage first with
  | none =>
      cases rendering.getMessage second with
      | none => exact iff_of_true rfl .none
      | some message => exact iff_of_false (by simp) (by simp)
  | some message =>
      cases rendering.getMessage second with
      | none => exact iff_of_false (by simp) (by simp)
      | some other => simp [redactTickets_eq_iff]

/-- No record is dropped, and what is logged of two records is the same exactly when their messages
differ in the values of tickets only. -/
theorem ticketFilter_hides (first second : LogRecord α) :
    ((ticketFilter rendering first).1 = true ∧ (ticketFilter rendering second).1 = true) ∧
    (rendering.getMessage (ticketFilter rendering first).2 =
        rendering.getMessage (ticketFilter rendering second).2 ↔
      Option.Rel SameButTickets (rendering.getMessage first) (rendering.getMessage second)) :=
  ⟨⟨ticketFilter_keeps rendering first, ticketFilter_keeps rendering second⟩,
    message_ticketFilter_iff rendering first second⟩

section Installed

variable (others : String → LogRecord α → Bool × LogRecord α)

/-- The last filter sees what the others pass on. -/
theorem runFilters_concat (filters : List LoggerFilter) (record : LogRecord α) :
    runFilters rendering others (filters ++ [.ticketRedacting]) record =
      (runFilters rendering others filters record).map fun passed =>
        (ticketFilter rendering passed).2 := by
  induction filters generalizing record with
  | nil =>
      simp only [List.nil_append, runFilters, ticketFilter_keeps, if_true, Option.map_some]
  | cons filter rest ih =>
      have passes (filtered : Bool × LogRecord α) :
          (if filtered.1 then
            runFilters rendering others (rest ++ [.ticketRedacting]) filtered.2 else none) =
          (if filtered.1 then runFilters rendering others rest filtered.2 else none).map
            fun passed => (ticketFilter rendering passed).2 := by
        split
        · exact ih filtered.2
        · rfl
      cases filter with
      | ticketRedacting => exact passes (ticketFilter rendering record)
      | other name => exact passes (others name record)

/-- A second installation changes nothing. -/
theorem installTicketRedaction_once (loggers : String → List LoggerFilter) :
    installTicketRedaction (installTicketRedaction loggers) = installTicketRedaction loggers := by
  have added : ∀ filters, LoggerFilter.ticketRedacting ∈ addTicketFilter filters := by
    intro filters
    unfold addTicketFilter
    split
    · assumption
    · simp
  funext name
  unfold installTicketRedaction
  by_cases listed : name ∈ requestTargetLoggers
  · rw [if_pos listed, if_pos listed, addTicketFilter, if_pos (added (loggers name))]
  · rw [if_neg listed, if_neg listed]

/-- A logger of request targets logs two records the same after any number of installations if its
other filters pass on messages that differ in the values of tickets only. -/
theorem installTicketRedaction_hides (loggers : String → List LoggerFilter) (name : String)
    (listed : name ∈ requestTargetLoggers) (fresh : .ticketRedacting ∉ loggers name)
    (installations : ℕ) (first second firstPassed secondPassed : LogRecord α)
    (one : runFilters rendering others (loggers name) first = some firstPassed)
    (other : runFilters rendering others (loggers name) second = some secondPassed)
    (same : Option.Rel SameButTickets (rendering.getMessage firstPassed)
      (rendering.getMessage secondPassed)) :
    let installed := installTicketRedaction^[installations + 1] loggers name
    (runFilters rendering others installed first).map rendering.getMessage =
      (runFilters rendering others installed second).map rendering.getMessage := by
  intro installed
  have once : installed = loggers name ++ [.ticketRedacting] := by
    have fixed : installTicketRedaction^[installations + 1] loggers =
        installTicketRedaction loggers := by
      rw [Function.iterate_succ_apply]
      exact Function.iterate_fixed (installTicketRedaction_once loggers) installations
    change installTicketRedaction^[installations + 1] loggers name = _
    rw [fixed, installTicketRedaction, if_pos listed, addTicketFilter, if_neg fresh]
  rw [once, runFilters_concat, runFilters_concat, one, other]
  exact congrArg some ((message_ticketFilter_iff rendering firstPassed secondPassed).mpr same)

end Installed

end Records

end OperationsConsole.Session
