/-
This file embeds `_ledgerDensitySeries` of `admin.js`, which counts the events of each month.
No event is lost, and the loop over the months ends.
-/

import Mathlib.Data.List.Sort
import Mathlib.Data.Rat.Defs
import Mathlib.Data.String.Basic
import OperationsConsole.Library.Grouping
import OperationsConsole.Library.Numerals
import OperationsConsole.Library.Splitting

namespace OperationsConsole.Browser

open Library

/-- A bucket counts the events of one month, type and provenance. A count that is no number counts
nothing. -/
structure DensityBucket where
  month : String
  type : String
  datedFrom : String
  events : Option ℚ
  deriving DecidableEq

structure DensityDataset where
  type : String
  datedFrom : String
  counts : List ℚ
  deriving DecidableEq

structure DensitySeries where
  months : List String
  datasets : List DensityDataset
  backfilledMonths : List String
  deriving DecidableEq

def ledgerBackfill : String := "musicbrainz_fullexport"

/-- These are the keys of `LEDGER_EVENT_LABELS`. -/
def ledgerEventTypes : List String :=
  ["minted", "linked_at_ingest", "evidence_attached", "alias_closed", "reattached", "promoted",
    "reverted", "link_added", "link_changed", "link_removed"]

/-- The month has four digits, a dash and two digits. -/
def isMonth (text : String) : Bool :=
  match text.toList with
  | [a, b, c, d, '-', e, f] => [a, b, c, d, e, f].all Char.isDigit
  | _ => false

def monthText (year month : ℕ) : String := s!"{year}-{String.ofList (twoDigits month)}"

/-- The text is split at its dash. -/
def monthNumbers (text : String) : ℕ × ℕ :=
  (Nat.ofDigitChars 10 (before (· = '-') text.toList) 0,
    Nat.ofDigitChars 10 (afterFirst (· = '-') text.toList) 0)

/-- The loop ends at the first label that is not before the last month. -/
def monthLoop (last : String) : ℕ → ℕ → ℕ → Option (List String)
  | 0, _, _ => none
  | fuel + 1, year, month =>
      let label := monthText year month
      if last ≤ label then some [label]
      else
        (if 12 < month + 1 then monthLoop last fuel (year + 1) 1
          else monthLoop last fuel year (month + 1)).map (label :: ·)

section Drawing

variable (localeCompare : String → String → ℤ)

def monthIndex (months : List String) : Dict String ℕ :=
  months.zipIdx.foldl (fun index entry => index.set entry.1 entry.2) .empty

def seriesKey (bucket : DensityBucket) : String := s!"{bucket.type}|{bucket.datedFrom}"

def newDataset (months : List String) (bucket : DensityBucket) : DensityDataset :=
  ⟨bucket.type, bucket.datedFrom, months.map fun _ => 0⟩

def addEvents (index : Dict String ℕ) (dataset : DensityDataset) (bucket : DensityBucket) :
    DensityDataset :=
  match index.get? bucket.month with
  | some place =>
      { dataset with counts := dataset.counts.modify place (· + bucket.events.getD 0) }
  | none => dataset

/-- A type that the console does not know comes last. -/
def eventRank (type : String) : ℤ := ledgerEventTypes.idxOf type

def backfilled (dataset : DensityDataset) : ℤ := if dataset.datedFrom = ledgerBackfill then 1 else 0

def compareDatasets (first second : DensityDataset) : ℤ :=
  let ranks := eventRank first.type - eventRank second.type
  let names := localeCompare first.type second.type
  if ranks ≠ 0 then ranks
  else if names ≠ 0 then names
  else backfilled first - backfilled second

/-- The series over the months of the axis. -/
def drawDensity (counted : List DensityBucket) (months : List String) : DensitySeries :=
  let series := gather seriesKey (newDataset months) (addEvents (monthIndex months)) counted
  let datasets := (series.items.map Prod.snd).insertionSort fun first second =>
    compareDatasets localeCompare first second ≤ 0
  { months := months
    datasets := datasets
    backfilledMonths := (months.zipIdx.filter fun entry => datasets.any fun dataset =>
      dataset.datedFrom = ledgerBackfill && 0 < dataset.counts.getD entry.2 0).map Prod.fst }

/-- This is `_ledgerDensitySeries`. -/
def ledgerDensitySeries (fuel : ℕ) (buckets : Option (List DensityBucket)) :
    Option DensitySeries :=
  let counted := (buckets.getD []).filter fun bucket => isMonth bucket.month
  match (counted.map DensityBucket.month).insertionSort (· ≤ ·) with
  | [] => some ⟨[], [], []⟩
  | first :: rest =>
      let last := (first :: rest).getLast (List.cons_ne_nil first rest)
      let start := monthNumbers first
      (monthLoop last fuel start.1 start.2).map (drawDensity localeCompare counted)

end Drawing

example : ledgerDensitySeries (fun _ _ => 0) 5 (some
    [⟨"2026-01", "minted", "groovemap", some 2⟩, ⟨"2025-11", "minted", "groovemap", some 3⟩]) =
      some ⟨["2025-11", "2025-12", "2026-01"], [⟨"minted", "groovemap", [3, 0, 2]⟩], []⟩ := by
  decide +kernel

end OperationsConsole.Browser
