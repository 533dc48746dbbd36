/-
This file embeds the activity log of `dashboard.js` with its limit on the number of entries.
It compares the log with the one that drops nothing.
-/

import OperationsConsole.Browser.ActivityLog
import OperationsConsole.Library.Loop
import OperationsConsole.Library.Trimming

namespace OperationsConsole.Browser.TrimmedLog

open Library

def maxLogEntries : ℕ := 100

structure AuditEntry where
  adminEmail : String
  action : String
  target : String
  createdAt : Option Seconds

/-- What the audit log answers for one action. -/
inductive AuditAnswer where
  | refused
  | failed
  | body (entries : List AuditEntry)

inductive LogInput where
  | entry (message : String) (type : Level) (time : Seconds)
  | event (event : Event)
  | backlog (events : List Event)
  | audit (answers : List AuditAnswer)
  | stop

/-- The log is newest first. -/
def Newer (first second : LogEntry) : Prop := second.time ≤ first.time

instance : DecidableRel Newer := fun first second => Rat.instDecidableLe second.time first.time

instance : Std.Total Newer := ⟨fun first second => le_total second.time first.time⟩

instance : IsTrans LogEntry Newer := ⟨fun _ _ _ first second => le_trans second first⟩

def trimActivityLog (log : ActivityLog) : ActivityLog :=
  { log with entries := (ActivityLog.sorted log.entries).take maxLogEntries }

def addLogEntry (log : ActivityLog) (entry : LogEntry) : ActivityLog :=
  trimActivityLog { log with entries := entry :: log.entries }

def replaceLogSource (log : ActivityLog) (source : LogSource) (entries : List LogEntry) :
    ActivityLog :=
  let others := log.entries.filter fun entry => entry.source ≠ source
  trimActivityLog { log with
    entries := others ++ entries.map fun entry => { entry with source := source } }

def applyEventBacklog (log : ActivityLog) (events : List Event) : ActivityLog :=
  replaceLogSource { log with lastServerEventId := markOf Event.id events } .server
    (events.map serverEntry)

def applyServerEvent (log : ActivityLog) (event : Event) : ActivityLog :=
  if log.covers event then log
  else
    let last := if event.id ≠ 0 then event.id else log.lastServerEventId
    addLogEntry { log with lastServerEventId := last } (serverEntry event)

def auditMessage (entry : AuditEntry) : String :=
  let who := if entry.adminEmail = "" then "an operator" else entry.adminEmail
  let target := if entry.target = "" then "" else " " ++ entry.target
  if entry.action = "extraction.trigger" then who ++ " triggered an extraction"
  else if entry.action = "dlq.purge" then who ++ " purged DLQ" ++ target
  else who ++ ": " ++ entry.action ++ target

/-- An entry without a readable time is not shown. -/
def auditEntry (entry : AuditEntry) : Option LogEntry :=
  entry.createdAt.map fun time => { time := time, message := auditMessage entry }

def AuditAnswer.entries : AuditAnswer → Option (List AuditEntry)
  | .body entries => some entries
  | _ => none

/-- One answer without a body leaves the entries that are shown. -/
def auditEntries (answers : List AuditAnswer) : Option (List LogEntry) :=
  (answers.mapM AuditAnswer.entries).map fun bodies => bodies.flatten.filterMap auditEntry

def fetchAuditEntries (log : ActivityLog) (answers : List AuditAnswer) : ActivityLog :=
  match auditEntries answers with
  | none => log
  | some entries => replaceLogSource log .audit entries

/-- Nothing of the log outlives its session. -/
def stop (_ : ActivityLog) : ActivityLog := {}

def step (log : ActivityLog) : LogInput → ActivityLog
  | .entry message type time => addLogEntry log ⟨time, message, type, .local⟩
  | .event event => applyServerEvent log event
  | .backlog events => applyEventBacklog log events
  | .audit answers => fetchAuditEntries log answers
  | .stop => stop log

/-- The same inputs reach a log that drops nothing. -/
def fullStep (log : ActivityLog) : LogInput → ActivityLog
  | .entry message type time => log.addLogEntry ⟨time, message, type, .local⟩
  | .event event => log.applyServerEvent event
  | .backlog events => log.applyEventBacklog events
  | .audit answers =>
      match auditEntries answers with
      | none => log
      | some entries => log.replaceLogSource .audit entries
  | .stop => stop log

def shownLog (history : List LogInput) : ActivityLog := after step {} history

def fullLog (history : List LogInput) : ActivityLog := after fullStep {} history

section Steps

/-- A replacement drops the entries of its source and adds its own. -/
def replacement (source : LogSource) (entries : List LogEntry) : Edit LogEntry where
  keep entry := entry.source ≠ source
  back := entries.map fun entry => { entry with source := source }

def editOf (log : ActivityLog) : LogInput → Edit LogEntry
  | .entry message type time => { front := [⟨time, message, type, .local⟩] }
  | .event event => if log.covers event then {} else { front := [serverEntry event] }
  | .backlog events => replacement .server (events.map serverEntry)
  | .audit answers => ((auditEntries answers).map (replacement .audit)).getD {}
  | .stop => { keep := fun _ => false }

variable (log other : ActivityLog) (input : LogInput)

theorem addition_applied (entry : LogEntry) (entries : List LogEntry) :
    ({ front := [entry] } : Edit LogEntry).apply Newer entries =
      ActivityLog.sorted (entry :: entries) := by
  change ([entry] ++ (entries.filter (fun _ => true) ++ [])).mergeSort _ = _
  rw [List.filter_true, List.append_nil]
  rfl

/-- The full log is edited, and it stays sorted. -/
theorem fullStep_entries (sorted : log.entries.Pairwise Newer) :
    (fullStep log input).entries = (editOf log input).apply Newer log.entries := by
  cases input with
  | entry message type time => exact (addition_applied _ log.entries).symm
  | event event =>
      change (log.applyServerEvent event).entries = (ite _ _ _ : Edit LogEntry).apply _ _
      unfold ActivityLog.applyServerEvent
      split
      · exact (Edit.apply_nothing Newer log.entries sorted).symm
      · exact (addition_applied _ log.entries).symm
  | backlog events => rfl
  | audit answers =>
      change (match auditEntries answers with | none => log | some entries => _).entries =
        (((auditEntries answers).map (replacement .audit)).getD {}).apply _ _
      cases auditEntries answers with
      | none => exact (Edit.apply_nothing Newer log.entries sorted).symm
      | some entries => rfl
  | stop =>
      change [] = (([] : List LogEntry) ++ (log.entries.filter (fun _ => false) ++ [])).mergeSort _
      rw [List.filter_false]
      exact List.mergeSort_nil.symm

/-- The shown log is edited and cut. -/
theorem step_entries (sorted : log.entries.Pairwise Newer)
    (bounded : log.entries.length ≤ maxLogEntries) :
    (step log input).entries =
      ((editOf log input).apply Newer log.entries).take maxLogEntries := by
  rw [← fullStep_entries log input sorted]
  cases input with
  | entry message type time => rfl
  | event event =>
      change (applyServerEvent log event).entries = (log.applyServerEvent event).entries.take _
      unfold applyServerEvent ActivityLog.applyServerEvent
      split
      · exact (List.take_of_length_le bounded).symm
      · rfl
  | backlog events => rfl
  | audit answers =>
      unfold step fetchAuditEntries fullStep
      dsimp only
      cases auditEntries answers with
      | none => exact (List.take_of_length_le bounded).symm
      | some entries => rfl
  | stop => rfl

theorem covers_congr (event : Event) (same : log.lastServerEventId = other.lastServerEventId) :
    log.covers event = other.covers event := by
  unfold ActivityLog.covers
  rw [same]

/-- The edit of an input depends on the number of the last event only. -/
theorem editOf_congr (same : log.lastServerEventId = other.lastServerEventId) :
    editOf log input = editOf other input := by
  cases input with
  | event event =>
      unfold editOf
      dsimp only
      rw [covers_congr log other event same]
  | entry _ _ _ | backlog _ | audit _ | stop => rfl

theorem lastServerEventId_step (same : log.lastServerEventId = other.lastServerEventId) :
    (step log input).lastServerEventId = (fullStep other input).lastServerEventId := by
  cases input with
  | entry message type time => exact same
  | event event =>
      change (applyServerEvent log event).lastServerEventId =
        (other.applyServerEvent event).lastServerEventId
      unfold applyServerEvent ActivityLog.applyServerEvent
      rw [covers_congr log other event same]
      split
      · exact same
      · change (if _ then event.id else log.lastServerEventId) = _
        rw [same]
        rfl
  | backlog events => rfl
  | audit answers =>
      unfold step fetchAuditEntries fullStep
      dsimp only
      cases auditEntries answers with
      | none => exact same
      | some entries => exact same
  | stop => rfl

end Steps

section Runs

/-- The shown log holds a part of the full one, and both are newest first. -/
structure Follows (shown full : ActivityLog) : Prop where
  last : shown.lastServerEventId = full.lastServerEventId
  within : shown.entries.Sublist full.entries
  sorted : full.entries.Pairwise Newer
  bounded : shown.entries.length ≤ maxLogEntries

theorem Follows.edited {shown full : ActivityLog} (follows : Follows shown full)
    (input : LogInput) :
    (step shown input).entries =
        ((editOf full input).apply Newer shown.entries).take maxLogEntries ∧
      (fullStep full input).entries = (editOf full input).apply Newer full.entries := by
  rw [← editOf_congr shown full input follows.last]
  refine ⟨step_entries shown input (follows.sorted.sublist follows.within) follows.bounded, ?_⟩
  rw [editOf_congr shown full input follows.last]
  exact fullStep_entries full input follows.sorted

theorem Follows.step {shown full : ActivityLog} (follows : Follows shown full)
    (input : LogInput) : Follows (step shown input) (fullStep full input) := by
  obtain ⟨cut, whole⟩ := follows.edited input
  constructor
  · exact lastServerEventId_step shown full input follows.last
  · rw [cut, whole]
    exact (List.take_sublist _ _).trans (Edit.apply_sublist Newer _ follows.within)
  · rw [whole]
    exact Edit.apply_sorted Newer _ _
  · rw [cut]
    exact List.length_take_le _ _

theorem follows_after (history : List LogInput) : Follows (shownLog history) (fullLog history) := by
  induction history with
  | nil => exact ⟨rfl, List.Sublist.refl _, List.Pairwise.nil, Nat.zero_le _⟩
  | cons input earlier ih => exact ih.step input

/-- An entry was crowded out in the past if a full log of entries as new was shown then. -/
def CrowdedOut (history : List LogInput) (entry : LogEntry) : Prop :=
  ∃ past, past <:+ history ∧ Crowded Newer maxLogEntries (shownLog past).entries entry

theorem shown_or_crowdedOut (history : List LogInput) :
    ∀ entry ∈ (fullLog history).entries,
      entry ∈ (shownLog history).entries ∨ CrowdedOut history entry := by
  induction history with
  | nil => exact fun entry member => .inl member
  | cons input earlier ih =>
      intro entry member
      obtain ⟨cut, whole⟩ := (follows_after earlier).edited input
      change entry ∈ (fullStep (fullLog earlier) input).entries at member
      rw [whole] at member
      rcases Edit.mem_cut_or_crowded Newer (editOf (fullLog earlier) input) maxLogEntries
        (shownLog earlier).entries _ entry member with inside | crowded | ⟨held, missing⟩
      · exact .inl (cut ▸ inside)
      · refine .inr ⟨input :: earlier, List.suffix_refl _, ?_⟩
        change Crowded Newer _ (step (shownLog earlier) input).entries entry
        rw [cut]
        exact crowded
      · -- The shown log had lost the entry before this input.
        obtain ⟨past, older, crowded⟩ := (ih entry held).resolve_left missing
        exact .inr ⟨past, older.trans (List.suffix_cons _ _), crowded⟩

/-- A log that never outgrew the limit lost nothing. -/
theorem shown_eq_full (history : List LogInput)
    (small : ∀ past, past <:+ history → (fullLog past).entries.length ≤ maxLogEntries) :
    shownLog history = fullLog history := by
  induction history with
  | nil => rfl
  | cons input earlier ih =>
      have before := ih fun past older => small past (older.trans (List.suffix_cons _ _))
      have follows := follows_after (input :: earlier)
      obtain ⟨cut, whole⟩ := (follows_after earlier).edited input
      have entries : (shownLog (input :: earlier)).entries =
          (fullLog (input :: earlier)).entries := by
        change (step (shownLog earlier) input).entries = (fullStep (fullLog earlier) input).entries
        rw [cut, before, ← whole]
        exact List.take_of_length_le (small _ (List.suffix_refl _))
      have last := follows.last
      generalize shownLog (input :: earlier) = shown at entries last
      generalize fullLog (input :: earlier) = full at entries last
      obtain ⟨shownEntries, shownLast⟩ := shown
      obtain ⟨fullEntries, fullLast⟩ := full
      cases entries
      cases last
      rfl

/-- This law says what the shown log holds after any inputs. -/
structure TrimmedLaw (history : List LogInput) : Prop where
  bounded : (shownLog history).entries.length ≤ maxLogEntries
  newestFirst : (shownLog history).entries.Pairwise fun first second => second.time ≤ first.time
  part : (shownLog history).entries.Sublist (fullLog history).entries
  last : (shownLog history).lastServerEventId = (fullLog history).lastServerEventId
  lost : ∀ entry ∈ (fullLog history).entries,
    entry ∈ (shownLog history).entries ∨ CrowdedOut history entry
  complete : (∀ past, past <:+ history → (fullLog past).entries.length ≤ maxLogEntries) →
    shownLog history = fullLog history

/-- After every history the shown log is the newest part of the full one. -/
theorem trimmed_law (history : List LogInput) : TrimmedLaw history where
  bounded := (follows_after history).bounded
  newestFirst := (follows_after history).sorted.sublist (follows_after history).within
  part := (follows_after history).within
  last := (follows_after history).last
  lost := shown_or_crowdedOut history
  complete := shown_eq_full history

end Runs

end OperationsConsole.Browser.TrimmedLog
