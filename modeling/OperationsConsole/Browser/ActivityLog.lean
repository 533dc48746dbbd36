/-
This file embeds the activity log of `dashboard.js`, without its limit on the number of entries.
The entries of the server are those that its backlog and its events add.
-/

import Mathlib.Data.List.Sort
import OperationsConsole.Events.Readings
import OperationsConsole.Library.Watermark

namespace OperationsConsole.Browser

open Library

inductive LogSource where
  | local
  | server
  | audit
  deriving DecidableEq

structure LogEntry where
  time : Seconds
  message : String
  type : Level := .info
  source : LogSource := .local
  deriving DecidableEq

/-- The log keeps its entries newest first, and the largest server event that it has seen. -/
structure ActivityLog where
  entries : List LogEntry := []
  lastServerEventId : Nat := 0
  deriving DecidableEq

def serverEntry (event : Event) : LogEntry := ⟨event.timestamp, event.message, event.level, .server⟩

namespace ActivityLog

/-- This sort keeps the order of entries with one time. -/
def sorted (entries : List LogEntry) : List LogEntry :=
  entries.mergeSort fun first second => second.time ≤ first.time

def addLogEntry (log : ActivityLog) (entry : LogEntry) : ActivityLog :=
  { log with entries := sorted (entry :: log.entries) }

def replaceLogSource (log : ActivityLog) (source : LogSource) (entries : List LogEntry) :
    ActivityLog :=
  let others := log.entries.filter fun entry => entry.source ≠ source
  { log with entries := sorted (others ++ entries.map fun entry => { entry with source := source }) }

/-- The backlog replaces every server entry and the number of the last server event. -/
def applyEventBacklog (log : ActivityLog) (events : List Event) : ActivityLog :=
  { log with lastServerEventId := markOf Event.id events }.replaceLogSource .server
    (events.map serverEntry)

/-- The log already covers an event with a number up to the last one. -/
def covers (log : ActivityLog) (event : Event) : Bool :=
  event.id ≠ 0 ∧ event.id ≤ log.lastServerEventId

def applyServerEvent (log : ActivityLog) (event : Event) : ActivityLog :=
  if log.covers event then log
  else
    let last := if event.id ≠ 0 then event.id else log.lastServerEventId
    { log with lastServerEventId := last }.addLogEntry (serverEntry event)

def serverEntries (log : ActivityLog) : List LogEntry :=
  log.entries.filter fun entry => entry.source = .server

section Entries

variable (log : ActivityLog)

theorem serverEntries_sorted (entries : List LogEntry) :
    ((sorted entries).filter fun entry => entry.source = .server).Perm
      (entries.filter fun entry => entry.source = .server) :=
  (List.mergeSort_perm entries _).filter _

theorem addLogEntry_server (entry : LogEntry) (server : entry.source = .server) :
    (log.addLogEntry entry).serverEntries.Perm (log.serverEntries ++ [entry]) := by
  apply (serverEntries_sorted _).trans
  rw [List.filter_cons_of_pos (by simpa using server)]
  exact (List.perm_append_singleton entry log.serverEntries).symm

theorem addLogEntry_other (entry : LogEntry) (other : entry.source ≠ .server) :
    (log.addLogEntry entry).serverEntries.Perm log.serverEntries := by
  apply (serverEntries_sorted _).trans
  rw [List.filter_cons_of_neg (by simpa using other)]
  exact List.Perm.refl _

theorem replaceLogSource_server (entries : List LogEntry)
    (server : ∀ entry ∈ entries, entry.source = .server) :
    (log.replaceLogSource .server entries).serverEntries.Perm entries := by
  apply (serverEntries_sorted _).trans
  have dropped : (log.entries.filter fun entry => entry.source ≠ .server).filter
      (fun entry => entry.source = .server) = [] := by
    simp [List.filter_filter]
  have kept : (entries.map fun entry => { entry with source := LogSource.server }) = entries := by
    apply (List.map_congr_left ?_).trans (List.map_id entries)
    intro entry member
    rw [← server entry member]
    rfl
  rw [List.filter_append, dropped, List.nil_append, kept, List.filter_eq_self.mpr]
  intro entry member
  simpa using server entry member

theorem replaceLogSource_other (source : LogSource) (entries : List LogEntry)
    (other : source ≠ .server) :
    (log.replaceLogSource source entries).serverEntries.Perm log.serverEntries := by
  apply (serverEntries_sorted _).trans
  have added : (entries.map fun entry => { entry with source := source }).filter
      (fun entry => entry.source = .server) = [] := by
    rw [List.filter_eq_nil_iff]
    intro entry member
    rw [List.mem_map] at member
    obtain ⟨original, _, same⟩ := member
    rw [← same]
    simpa using other
  have kept : (log.entries.filter fun entry => entry.source ≠ source).filter
      (fun entry => entry.source = .server) = log.serverEntries := by
    rw [List.filter_filter]
    apply List.filter_congr
    intro entry _
    by_cases server : entry.source = .server
    · simp [server, other.symm]
    · simp [server]
  rw [List.filter_append, added, List.append_nil, kept]

end Entries

end ActivityLog

end OperationsConsole.Browser
