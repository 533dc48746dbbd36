/-
This file embeds `burnupSeries` of `RunProgress` in `dashboard.js`, which draws the loaded fraction.
It joins the points of the queues by the texts of their times and keeps the complete times.
-/

import Mathlib.Algebra.Order.Field.Basic
import Mathlib.Algebra.Order.Ring.Rat
import OperationsConsole.Library.IsoText
import OperationsConsole.Library.Joining

namespace OperationsConsole.Browser.Burnup

open Library

/-- A cell has the points of its queue, each with its time as a text. -/
structure Cell where
  points : List (String × ℤ)
  deriving DecidableEq

/-- So many cells reported at a time, and this is the sum of their loaded counts. -/
structure Tally where
  n : ℕ
  loaded : ℤ
  deriving DecidableEq

def Tally.zero : Tally := ⟨0, 0⟩

def Tally.add {τ : Type} (tally : Tally) (point : τ × ℤ) : Tally :=
  ⟨tally.n + 1, tally.loaded + point.2⟩

def addCell (sums : Dict String Tally) (cell : Cell) : Dict String Tally :=
  cell.points.foldl (fun sums point =>
    sums.set point.1 (((sums.get? point.1).getD Tally.zero).add point)) sums

/-- A time that is no date has no milliseconds. -/
structure Point where
  ms : Option ℤ
  fraction : ℚ
  deriving DecidableEq

/-- The order does not tell a time that is no date from the others. -/
def Point.compare (first second : Point) : ℤ :=
  match first.ms, second.ms with
  | some first, some second => first - second
  | _, _ => 0

/-- This is `burnupSeries`. -/
def burnupSeries (cells : List Cell) (totalExpected : ℚ) : List Point :=
  let sums := cells.foldl addCell .empty
  let complete := sums.items.filter fun item => item.2.n = cells.length
  let points := complete.map fun item =>
    (⟨dateParse item.1, item.2.loaded / totalExpected⟩ : Point)
  points.insertionSort fun first second => first.compare second ≤ 0

section Answers

/-- A time is answered as a text, and a time that is no date raises an exception. -/
def answerEntry (entry : ℤ × ℤ) : Option (String × ℤ) :=
  (isoformat entry.1).map fun text => (text, entry.2)

/-- The answer for a queue with these stamps and loaded counts. -/
def answer (track : List (ℤ × ℤ)) : Option Cell := (track.mapM answerEntry).map Cell.mk

def stampText (stamp : ℤ) : String := (isoformat stamp).getD ""

def namedEntry (entry : ℤ × ℤ) : String × ℤ := (stampText entry.1, entry.2)

theorem answerEntry_eq_some_iff (entry : ℤ × ℤ) (point : String × ℤ) :
    answerEntry entry = some point ↔
      isoformat entry.1 = some (stampText entry.1) ∧ point = namedEntry entry := by
  unfold answerEntry namedEntry stampText
  cases isoformat entry.1 with
  | none => simp
  | some text =>
      rw [Option.map_some, Option.some.injEq, Option.getD_some]
      exact ⟨fun same => ⟨rfl, same.symm⟩, fun both => both.2.symm⟩

theorem answer_eq_some (track : List (ℤ × ℤ)) (cell : Cell) (answered : answer track = some cell) :
    cell.points = track.map namedEntry ∧
      ∀ entry ∈ track, isoformat entry.1 = some (stampText entry.1) := by
  obtain ⟨points, written, rfl⟩ := Option.map_eq_some_iff.mp answered
  have pairs := ((mapM_eq_some_iff answerEntry track points).mp written).imp
    fun entry point one => (answerEntry_eq_some_iff entry point).mp one
  obtain ⟨dated, same⟩ := (List.forall₂_and_left _ _).mp pairs
  have named := map_eq_of_forall₂ same namedEntry id fun _ _ one => one.symm
  exact ⟨by rw [named, List.map_id], dated⟩

/-- The cells gather the entries of the tracks under their texts. -/
theorem sums_eq_gather (tracks : List (List (ℤ × ℤ))) (cells : List Cell)
    (answered : tracks.mapM answer = some cells) :
    cells.foldl addCell .empty =
        gather (fun entry => stampText entry.1) (fun _ => Tally.zero) Tally.add
          tracks.flatten ∧
      cells.length = tracks.length ∧
      ∀ entry ∈ tracks.flatten, isoformat entry.1 = some (stampText entry.1) := by
  have pairs := ((mapM_eq_some_iff answer tracks cells).mp answered).imp
    fun track cell one => (answer_eq_some track cell one).symm
  obtain ⟨dated, points⟩ := (List.forall₂_and_left _ _).mp pairs
  have named : tracks.map (List.map namedEntry) = cells.map Cell.points :=
    map_eq_of_forall₂ points (List.map namedEntry) Cell.points fun _ _ one => one.symm
  refine ⟨?_, points.length_eq.symm, ?_⟩
  · have joined : cells.flatMap Cell.points = tracks.flatten.map namedEntry := by
      rw [List.flatMap_def, ← named, List.map_flatten]
    unfold gather
    calc cells.foldl addCell .empty
        = (cells.flatMap Cell.points).foldl (fun sums point =>
            sums.set point.1 (((sums.get? point.1).getD Tally.zero).add point)) .empty := by
          rw [List.foldl_flatMap]
          rfl
      _ = _ := by
          rw [joined, List.foldl_map]
          rfl
  · intro entry member
    obtain ⟨track, inside, within⟩ := List.mem_flatten.mp member
    exact dated track inside entry within

end Answers

section Line

variable (tracks : List (List (ℤ × ℤ))) (total : ℚ)

/-- The loaded fraction at a stamp. A stamp counts microseconds, and the page keeps milliseconds. -/
def pointAt (stamp : ℤ) : Point := ⟨some (stamp / 1000), (keySum tracks stamp : ℤ) / total⟩

theorem foldl_add {τ : Type} (points : List (τ × ℤ)) (tally : Tally) :
    points.foldl Tally.add tally =
      ⟨tally.n + points.length, tally.loaded + (points.map Prod.snd).sum⟩ := by
  induction points generalizing tally with
  | nil => simp
  | cons point rest ih =>
      rw [List.foldl_cons, ih, List.length_cons, List.map_cons, List.sum_cons, Tally.add,
        Tally.mk.injEq]
      exact ⟨Nat.add_right_comm _ _ _, add_assoc _ _ _⟩

/-- The complete sums are those of the shared stamps, in the order of the first cell. -/
theorem complete_sums (cells : List Cell) (answered : tracks.mapM answer = some cells)
    (once : ∀ track ∈ tracks, (track.map Prod.fst).Nodup) :
    ((cells.foldl addCell .empty).items.filter fun item => item.2.n = cells.length) =
      (shared tracks).map fun stamp => (stampText stamp,
        (groupOf Prod.fst tracks.flatten stamp).foldl Tally.add Tally.zero) := by
  obtain ⟨sums, length, dated⟩ := sums_eq_gather tracks cells answered
  have telling : Telling stampText tracks.flatten := by
    intro first member second inside same
    have written := dated second inside
    rw [← same] at written
    exact isoformat_injective first.1 _ second.1 (dated first member) written
  rw [sums, length]
  apply gather_shared stampText Tally.add Tally.zero (fun tally => tally.n = tracks.length) tracks
    telling once
  intro group
  rw [foldl_add, decide_eq_true_eq, Tally.zero, Nat.zero_add]

/-- A shared stamp is drawn from its text and its tally. -/
theorem pointAt_eq (cells : List Cell) (answered : tracks.mapM answer = some cells) (stamp : ℤ)
    (member : stamp ∈ shared tracks) :
    (⟨dateParse (stampText stamp),
      ((groupOf Prod.fst tracks.flatten stamp).foldl Tally.add Tally.zero).loaded / total⟩ : Point) =
      pointAt tracks total stamp := by
  obtain ⟨_, _, dated⟩ := sums_eq_gather tracks cells answered
  obtain ⟨filled, listed⟩ := (mem_shared_iff tracks stamp).mp member
  obtain ⟨track, inside⟩ := List.exists_mem_of_ne_nil tracks filled
  obtain ⟨entry, within, rfl⟩ := List.mem_map.mp (listed track inside)
  have written := dated entry (List.mem_flatten_of_mem inside within)
  have loaded : ((groupOf Prod.fst tracks.flatten entry.1).foldl Tally.add Tally.zero).loaded =
      keySum tracks entry.1 := by
    rw [foldl_add]
    exact (zero_add _).trans (groupSum_flatten tracks entry.1)
  rw [dateParse_isoformat entry.1 _ written, loaded, pointAt]

/-- The shared stamps are already in order before the sorting, which keeps the order of equal
milliseconds. -/
theorem burnupSeries_eq (cells : List Cell) (answered : tracks.mapM answer = some cells)
    (rising : ∀ track ∈ tracks, Rising track) :
    burnupSeries cells total = (shared tracks).map (pointAt tracks total) := by
  have complete := complete_sums tracks cells answered fun track member =>
    (rising track member).once
  have points := pointAt_eq tracks total cells answered
  unfold burnupSeries
  dsimp only
  rw [complete, List.map_map]
  change ((shared tracks).map fun stamp => (⟨dateParse (stampText stamp), _⟩ : Point)).insertionSort
    _ = _
  rw [List.map_congr_left points]
  apply List.Pairwise.insertionSort_eq
  apply List.pairwise_map.mpr
  apply (shared_increasing tracks rising).imp
  intro earlier later less
  unfold Point.compare pointAt
  dsimp only
  omega

/-- No two times at which all queues have a point lie within one millisecond. -/
def Apart : Prop :=
  ∀ earlier ∈ shared tracks, ∀ later ∈ shared tracks, earlier < later →
    earlier / 1000 < later / 1000

/-- The line of a consumer has a point for each time at which all its queues have one, in order and
once, with the loaded fraction at that time. The returned milliseconds never fall, and each of them is
returned once exactly if the times are apart. The fraction is never negative and never falls. -/
structure LoadedLine (line : List Point) : Prop where
  complete : ∃ stamps : List ℤ, stamps.Pairwise (· < ·) ∧
    (∀ stamp, stamp ∈ stamps ↔ tracks ≠ [] ∧ ∀ track ∈ tracks, stamp ∈ track.map Prod.fst) ∧
    line = stamps.map (pointAt tracks total)
  ordered : line.Pairwise fun earlier later => ∃ first second, earlier.ms = some first ∧
    later.ms = some second ∧ first ≤ second
  once : (line.map Point.ms).Nodup ↔ Apart tracks
  nonneg : ∀ point ∈ line, 0 ≤ point.fraction
  nondecreasing : line.Pairwise fun earlier later => earlier.fraction ≤ later.fraction

/-- Each millisecond is returned once exactly if the times of rising tracks are apart. -/
theorem nodup_ms_iff (rising : ∀ track ∈ tracks, Rising track) :
    (((shared tracks).map (pointAt tracks total)).map Point.ms).Nodup ↔ Apart tracks := by
  have increasing := shared_increasing tracks rising
  rw [List.map_map]
  constructor
  · intro once earlier first later second less
    have bounded : earlier / 1000 ≤ later / 1000 := Int.ediv_le_ediv (by decide) less.le
    apply lt_of_le_of_ne bounded
    intro same
    exact less.ne (List.inj_on_of_nodup_map once first second (congrArg some same))
  · intro apart
    apply List.pairwise_map.mpr
    apply increasing.imp_of_mem
    intro earlier later first second less same
    exact (apart earlier first later second less).ne (Option.some.inj same)

/-- The line over rising tracks is a loaded line. -/
theorem burnupSeries_loadedLine (positive : 0 < total) (cells : List Cell)
    (answered : tracks.mapM answer = some cells) (rising : ∀ track ∈ tracks, Rising track)
    (counted : ∀ track ∈ tracks, ∀ entry ∈ track, 0 ≤ entry.2) :
    LoadedLine tracks total (burnupSeries cells total) := by
  have increasing := shared_increasing tracks rising
  rw [burnupSeries_eq tracks total cells answered rising]
  constructor
  · exact ⟨shared tracks, increasing, mem_shared_iff tracks, rfl⟩
  · apply List.pairwise_map.mpr
    apply increasing.imp
    intro earlier later less
    exact ⟨_, _, rfl, rfl, Int.ediv_le_ediv (by decide) less.le⟩
  · exact nodup_ms_iff tracks total rising
  · intro point member
    obtain ⟨stamp, _, rfl⟩ := List.mem_map.mp member
    have sum : (0 : ℚ) ≤ (keySum tracks stamp : ℤ) := Int.cast_nonneg (keySum_nonneg tracks counted stamp)
    exact div_nonneg sum positive.le
  · apply List.pairwise_map.mpr
    apply increasing.imp_of_mem
    intro earlier later first second less
    have sum : ((keySum tracks earlier : ℤ) : ℚ) ≤ (keySum tracks later : ℤ) :=
      Int.cast_le.mpr (keySum_le tracks rising earlier later less.le first second)
    exact div_le_div_of_nonneg_right sum positive.le

end Line

end OperationsConsole.Browser.Burnup
