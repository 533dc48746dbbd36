/-
This file defines a history of timed samples, and the window that keeps its recent samples.
The window drops old samples at every insertion and still answers like the whole history.
-/

import Mathlib.Algebra.Order.Group.Defs
import Mathlib.Algebra.Order.Sub.Basic
import Mathlib.Data.List.Chain

namespace Library.SlidingWindow

variable {τ α : Type*} [LinearOrder τ] (time : α → τ)

/-- The shift drops the oldest samples while the next one is at or before the start. -/
def shift (start : τ) : List α → List α
  | first :: second :: rest =>
      if time second ≤ start then shift start (second :: rest) else first :: second :: rest
  | samples => samples

/-- The baseline of a window is the newest sample at or before its start, or the oldest one. -/
def baseline (start : τ) (samples : List α) : Option α :=
  (samples.filter fun sample => time sample ≤ start).getLast?.or samples.head?

/-- The samples of a history get strictly newer. -/
def Chronological (samples : List α) : Prop := samples.Pairwise fun a b => time a < time b

section Shift

variable (start : τ) (samples : List α)

theorem shift_suffix : shift time start samples <:+ samples := by
  induction samples with
  | nil => exact List.suffix_refl []
  | cons first rest ih =>
      cases rest with
      | nil => exact List.suffix_refl [first]
      | cons second rest =>
          unfold shift
          split
          · exact ih.trans (List.suffix_cons first (second :: rest))
          · exact List.suffix_refl _

/-- The shift keeps the newest sample. -/
theorem shift_ne_nil (present : samples ≠ []) : shift time start samples ≠ [] := by
  induction samples with
  | nil => exact present
  | cons first rest ih =>
      cases rest with
      | nil => exact present
      | cons second rest =>
          unfold shift
          split
          · exact ih (List.cons_ne_nil second rest)
          · exact present

/-- The shift keeps a newest sample that is after the start. -/
theorem shift_concat (last : α) (inside : start < time last) :
    shift time start (samples ++ [last]) = shift time start samples ++ [last] := by
  induction samples with
  | nil => rfl
  | cons first rest ih =>
      cases rest with
      | nil =>
          show (if time last ≤ start then [last] else [first, last]) = [first, last]
          rw [if_neg (not_le.mpr inside)]
      | cons second rest =>
          show (if time second ≤ start then shift time start (second :: rest ++ [last])
            else first :: second :: rest ++ [last]) = _
          by_cases before : time second ≤ start
          · rw [if_pos before, ih, shift, if_pos before]
          · rw [if_neg before, shift, if_neg before]

/-- A later shift is the same with and without an earlier one. -/
theorem shift_append (later : τ) (ordered : start ≤ later) (more : List α) :
    shift time later (shift time start samples ++ more) = shift time later (samples ++ more) := by
  induction samples with
  | nil => rfl
  | cons first rest ih =>
      cases rest with
      | nil => rfl
      | cons second rest =>
          by_cases before : time second ≤ start
          · have next : shift time later (first :: second :: rest ++ more) =
                shift time later (second :: rest ++ more) := if_pos (before.trans ordered)
            rw [shift, if_pos before, ih, next]
          · rw [shift, if_neg before]

/-- The same shift a second time changes nothing. -/
theorem shift_shift : shift time start (shift time start samples) = shift time start samples := by
  have twice := shift_append time start samples start le_rfl []
  rwa [List.append_nil, List.append_nil] at twice

/-- Only the first sample after a shift can be at or before the start. -/
theorem shift_tail (chronological : Chronological time samples) :
    ∀ sample ∈ (shift time start samples).tail, start < time sample := by
  induction samples with
  | nil =>
      intro sample member
      cases member
  | cons first rest ih =>
      cases rest with
      | nil =>
          intro sample member
          cases member
      | cons second rest =>
          have later := List.pairwise_cons.mp (List.pairwise_cons.mp chronological).2
          by_cases before : time second ≤ start
          · rw [shift, if_pos before]
            exact ih (List.pairwise_cons.mp chronological).2
          · rw [shift, if_neg before]
            intro sample member
            rcases List.mem_cons.mp member with same | inside
            · exact same ▸ not_le.mp before
            · exact (not_le.mp before).trans (later.1 sample inside)

/-- A shift keeps at most one sample at or before the start. -/
theorem length_filter_shift (chronological : Chronological time samples) :
    ((shift time start samples).filter fun sample => time sample ≤ start).length ≤ 1 := by
  have after := shift_tail time start samples chronological
  cases remaining : shift time start samples with
  | nil => exact Nat.zero_le 1
  | cons first rest =>
      rw [remaining, List.tail_cons] at after
      have none : (rest.filter fun sample => time sample ≤ start) = [] := by
        rw [List.filter_eq_nil_iff]
        intro sample member early
        exact absurd (of_decide_eq_true early) (not_le.mpr (after sample member))
      rw [List.filter_cons, none]
      split
      · exact le_rfl
      · exact Nat.zero_le 1

/-- The shift keeps the baseline as its first sample. -/
theorem head?_shift (chronological : Chronological time samples) :
    (shift time start samples).head? = baseline time start samples := by
  induction samples with
  | nil => rfl
  | cons first rest ih =>
      cases rest with
      | nil =>
          unfold baseline
          by_cases before : time first ≤ start
          · rw [List.filter_cons_of_pos (by simpa using before)]
            rfl
          · rw [List.filter_cons_of_neg (by simpa using before)]
            rfl
      | cons second rest =>
          obtain ⟨older, chain⟩ := List.pairwise_cons.mp chronological
          by_cases before : time second ≤ start
          · have present : ((second :: rest).filter fun sample => time sample ≤ start) ≠ [] :=
              List.ne_nil_of_mem (List.mem_filter.mpr
                ⟨List.mem_cons_self, decide_eq_true before⟩)
            have both : time first ≤ start := ((older second List.mem_cons_self).trans_le before).le
            have whole : ((first :: second :: rest).filter fun sample => time sample ≤ start) =
                first :: (second :: rest).filter fun sample => time sample ≤ start :=
              List.filter_cons_of_pos (by simpa using both)
            rw [shift, if_pos before, ih chain, baseline, baseline, whole]
            cases newest : ((second :: rest).filter fun sample => time sample ≤ start).getLast? with
            | none => exact absurd (List.getLast?_eq_none_iff.mp newest) present
            | some newest => rw [List.getLast?_cons, newest, Option.getD_some, Option.some_or,
                Option.some_or]
          · have none : ((second :: rest).filter fun sample => time sample ≤ start) = [] := by
              rw [List.filter_eq_nil_iff]
              intro sample member inside
              have after : start < time sample := by
                rcases List.mem_cons.mp member with same | later
                · exact same ▸ not_le.mp before
                · exact (not_le.mp before).trans ((List.pairwise_cons.mp chain).1 sample later)
              exact absurd (of_decide_eq_true inside) (not_le.mpr after)
            rw [shift, if_neg before, baseline]
            by_cases inside : time first ≤ start
            · rw [List.filter_cons_of_pos (by simpa using inside), none]
              rfl
            · rw [List.filter_cons_of_neg (by simpa using inside), none]
              rfl

/-- The shift keeps every sample at or after the start. -/
theorem filter_shift (chronological : Chronological time samples) :
    ((shift time start samples).filter fun sample => start ≤ time sample) =
      samples.filter fun sample => start ≤ time sample := by
  induction samples with
  | nil => rfl
  | cons first rest ih =>
      cases rest with
      | nil => rfl
      | cons second rest =>
          obtain ⟨older, chain⟩ := List.pairwise_cons.mp chronological
          by_cases before : time second ≤ start
          · have outside : time first < start :=
              (older second List.mem_cons_self).trans_le before
            rw [shift, if_pos before, ih chain, eq_comm]
            exact List.filter_cons_of_neg (by simpa using outside)
          · rw [shift, if_neg before]

end Shift

section Runs

variable [AddCommGroup τ] (span gap : τ)

/-- The whole history drops a late sample, replaces one of the same time, and starts afresh after a
gap. -/
def accept (samples : List α) (sample : α) : List α :=
  match samples.getLast? with
  | none => [sample]
  | some last =>
      if time sample < time last then samples
      else if time sample = time last then samples.dropLast ++ [sample]
      else if gap < time sample - time last then [sample]
      else samples ++ [sample]

/-- The window also drops what lies before its baseline. -/
def record (samples : List α) (sample : α) : List α :=
  match samples.getLast? with
  | none => shift time (time sample - span) [sample]
  | some last =>
      if time sample < time last then samples
      else if time sample = time last then
        shift time (time sample - span) (samples.dropLast ++ [sample])
      else if gap < time sample - time last then shift time (time sample - span) [sample]
      else shift time (time sample - span) (samples ++ [sample])

/-- A record holds old samples and the new one. -/
theorem mem_record (samples : List α) (added sample : α)
    (member : sample ∈ record time span gap samples added) : sample ∈ samples ∨ sample = added := by
  have kept : ∀ older, sample ∈ shift time (time added - span) (older ++ [added]) →
      sample ∈ older ∨ sample = added := by
    intro older listed
    have either := (shift_suffix time _ _).subset listed
    rwa [List.mem_append, List.mem_singleton] at either
  have alone : sample ∈ shift time (time added - span) [added] →
      sample ∈ samples ∨ sample = added := by
    intro listed
    exact (kept [] listed).imp_left fun none => absurd none List.not_mem_nil
  unfold record at member
  split at member
  · exact alone member
  · split at member
    · exact .inl member
    · split at member
      · exact (kept _ member).imp_left fun old => List.dropLast_subset _ old
      · split at member
        · exact alone member
        · exact kept _ member

theorem record_ne_nil (samples : List α) (added : α) : record time span gap samples added ≠ [] := by
  have kept : ∀ older, shift time (time added - span) (older ++ [added]) ≠ [] := by
    intro older
    exact shift_ne_nil time _ _ (List.concat_ne_nil _ _)
  unfold record
  split
  · exact kept []
  · rename_i last newest
    split
    · intro empty
      rw [empty] at newest
      cases newest
    · split
      · exact kept _
      · split
        · exact kept []
        · exact kept _

/-- The window of a history ends at its newest sample. -/
def window (samples : List α) : List α :=
  match samples.getLast? with
  | none => []
  | some last => shift time (time last - span) samples

/-- No sample of a history follows the one before it after more than the gap. -/
def Unbroken (samples : List α) : Prop := samples.IsChain fun a b => time b - time a ≤ gap

/-- A history covers the time from its first sample to its last one, up to the span. -/
def covered (samples : List α) : τ :=
  match samples.head?, samples.getLast? with
  | some first, some last => min span (time last - time first)
  | _, _ => 0

theorem window_concat (samples : List α) (last : α) :
    window time span (samples ++ [last]) =
      shift time (time last - span) (samples ++ [last]) := by
  unfold window
  rw [List.getLast?_concat]

theorem window_suffix (samples : List α) : window time span samples <:+ samples := by
  unfold window
  split
  · exact List.nil_suffix
  · exact shift_suffix _ _ _

/-- What the history accepts is strictly newer and not after a gap. -/
theorem accept_chronological (samples : List α) (sample : α)
    (chronological : Chronological time samples) :
    Chronological time (accept time gap samples sample) := by
  rcases List.eq_nil_or_concat samples with empty | ⟨earlier, last, split⟩
  · rw [empty]
    exact List.pairwise_singleton _ _
  · rw [split, List.concat_eq_append] at chronological ⊢
    unfold accept
    simp only [List.getLast?_concat, List.dropLast_concat]
    obtain ⟨before, _, older⟩ := List.pairwise_append.mp chronological
    by_cases late : time sample < time last
    · rw [if_pos late]
      exact chronological
    · rw [if_neg late]
      by_cases same : time sample = time last
      · rw [if_pos same]
        refine List.pairwise_append.mpr ⟨before, List.pairwise_singleton _ _, ?_⟩
        intro a member b newest
        rw [List.mem_singleton.mp newest, same]
        exact older a member last (List.mem_singleton_self last)
      · rw [if_neg same]
        split
        · exact List.pairwise_singleton _ _
        · refine List.pairwise_append.mpr ⟨chronological, List.pairwise_singleton _ _, ?_⟩
          intro a member b newest
          rw [List.mem_singleton.mp newest]
          have after : time last < time sample := lt_of_le_of_ne (not_lt.mp late) (Ne.symm same)
          rcases List.mem_append.mp member with earlier | only
          · exact (older a earlier last (List.mem_singleton_self last)).trans after
          · exact List.mem_singleton.mp only ▸ after

theorem accept_unbroken (samples : List α) (sample : α) (unbroken : Unbroken time gap samples) :
    Unbroken time gap (accept time gap samples sample) := by
  rcases List.eq_nil_or_concat samples with empty | ⟨earlier, last, split⟩
  · rw [empty]
    exact List.isChain_singleton _
  · rw [split, List.concat_eq_append] at unbroken ⊢
    unfold accept
    simp only [List.getLast?_concat, List.dropLast_concat]
    by_cases late : time sample < time last
    · rw [if_pos late]
      exact unbroken
    · rw [if_neg late]
      by_cases same : time sample = time last
      · rw [if_pos same]
        obtain ⟨before, _, joined⟩ := List.isChain_append.mp unbroken
        refine List.isChain_append.mpr ⟨before, List.isChain_singleton _, ?_⟩
        intro a newest b only
        rw [List.head?_singleton, Option.mem_some] at only
        rw [← only, same]
        exact joined a newest last rfl
      · rw [if_neg same]
        split
        · exact List.isChain_singleton _
        · rename_i near
          refine List.isChain_append.mpr ⟨unbroken, List.isChain_singleton _, ?_⟩
          intro a newest b only
          rw [List.getLast?_concat, Option.mem_some] at newest
          rw [List.head?_singleton, Option.mem_some] at only
          rw [← newest, ← only]
          exact not_lt.mp near

theorem foldl_accept_ordered (inputs : List α) :
    Chronological time (inputs.foldl (accept time gap) []) ∧
      Unbroken time gap (inputs.foldl (accept time gap) []) := by
  have kept : ∀ samples, Chronological time samples ∧ Unbroken time gap samples →
      Chronological time (inputs.foldl (accept time gap) samples) ∧
        Unbroken time gap (inputs.foldl (accept time gap) samples) := by
    induction inputs with
    | nil => exact fun samples both => both
    | cons input rest ih =>
        intro samples both
        exact ih _ ⟨accept_chronological time gap samples input both.1,
          accept_unbroken time gap samples input both.2⟩
  exact kept [] ⟨List.Pairwise.nil, List.isChain_nil⟩

variable [IsOrderedAddMonoid τ]

/-- A window records a sample as the whole history accepts it. -/
theorem record_window (positive : 0 < span) (samples : List α) (sample : α) :
    record time span gap (window time span samples) sample =
      window time span (accept time gap samples sample) := by
  rcases List.eq_nil_or_concat samples with empty | ⟨earlier, last, split⟩
  · rw [empty]
    rfl
  · have inside : time last - span < time last := sub_lt_self _ positive
    rw [split, List.concat_eq_append, window_concat, shift_concat time _ _ last inside]
    unfold record accept
    simp only [List.getLast?_concat, List.dropLast_concat]
    by_cases late : time sample < time last
    · rw [if_pos late, if_pos late, window_concat, shift_concat time _ _ last inside]
    · rw [if_neg late, if_neg late]
      by_cases same : time sample = time last
      · rw [if_pos same, if_pos same, window_concat, ← same]
        exact shift_append time _ _ _ le_rfl _
      · rw [if_neg same, if_neg same]
        by_cases broken : gap < time sample - time last
        · rw [if_pos broken, if_pos broken]
          rfl
        · have ordered : time last - span ≤ time sample - span :=
            sub_le_sub_right (not_lt.mp late) span
          rw [if_neg broken, if_neg broken, window_concat,
            ← shift_concat time _ _ last inside]
          exact shift_append time _ _ _ ordered _

/-- A window replaces its newest sample by one of the same time. -/
theorem record_window_same (positive : 0 < span) (samples : List α) (last sample : α)
    (newest : (window time span samples).getLast? = some last)
    (same : time sample = time last) :
    record time span gap (window time span samples) sample =
      (window time span samples).dropLast ++ [sample] := by
  rcases List.eq_nil_or_concat samples with empty | ⟨earlier, final, split⟩
  · rw [empty] at newest
    cases newest
  · have inside : time final - span < time final := sub_lt_self _ positive
    rw [split, List.concat_eq_append, window_concat, shift_concat time _ _ final inside] at newest ⊢
    rw [List.getLast?_concat, Option.some.injEq] at newest
    have level : time sample = time final := newest ▸ same
    have kept : time final - span < time sample := level ▸ inside
    unfold record
    rw [List.getLast?_concat, List.dropLast_concat]
    dsimp only
    rw [if_neg level.ge.not_gt, if_pos level, level, shift_concat time _ _ sample kept, shift_shift]

/-- The window of a run is the window of its whole history. -/
theorem foldl_record (positive : 0 < span) (inputs : List α) :
    inputs.foldl (record time span gap) [] =
      window time span (inputs.foldl (accept time gap) []) := by
  have start : window time span ([] : List α) = [] := rfl
  rw [← start]
  exact (List.foldl_hom (window time span) fun samples sample =>
    record_window time span gap positive samples sample)

/-- The window covers as much time as the whole history, up to its span. -/
theorem covered_window (positive : 0 < span) (samples : List α)
    (chronological : Chronological time samples) :
    covered time span (window time span samples) = covered time span samples := by
  rcases List.eq_nil_or_concat samples with empty | ⟨earlier, last, split⟩
  · rw [empty]
    rfl
  · have inside : time last - span < time last := sub_lt_self _ positive
    rw [split, List.concat_eq_append] at chronological ⊢
    have head := head?_shift time (time last - span) _ chronological
    have newest : (window time span (earlier ++ [last])).getLast? = some last := by
      rw [window_concat, shift_concat time _ _ last inside, List.getLast?_concat]
    rw [← window_concat] at head
    unfold covered
    rw [newest, head, List.getLast?_concat]
    unfold baseline
    cases before : ((earlier ++ [last]).filter fun sample =>
        time sample ≤ time last - span).getLast? with
    | none => rfl
    | some kept =>
        have listed := List.mem_filter.mp (List.mem_of_getLast? before)
        have early : time kept ≤ time last - span := of_decide_eq_true listed.2
        cases first : (earlier ++ [last]).head? with
        | none =>
            rw [List.head?_eq_none_iff.mp first] at listed
            cases listed.1
        | some oldest =>
            have older : time oldest ≤ time kept := by
              obtain ⟨rest, whole⟩ := List.head?_eq_some_iff.mp first
              rw [whole] at listed chronological
              rcases List.mem_cons.mp listed.1 with same | later
              · exact (congrArg time same).ge
              · exact ((List.pairwise_cons.mp chronological).1 kept later).le
            have long : span ≤ time last - time kept := le_sub_comm.mp early
            show min span (time last - time kept) = min span (time last - time oldest)
            rw [min_eq_left long, min_eq_left (long.trans (sub_le_sub_left older _))]

end Runs

end Library.SlidingWindow
