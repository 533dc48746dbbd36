/-
This file proves when the rate tracker computes a rate, over every sequence of updates.
Over a stretch of computed rates the rates add up to what the counter gained.
-/

import OperationsConsole.Collector.QueueMetrics

namespace OperationsConsole

open Library

/-- An update gives the tracker the samples of one scrape and its time. -/
structure RateUpdate where
  samples : Samples
  now : Seconds

/-- The tracker counts published and acknowledged messages. -/
inductive Traffic where
  | publish
  | ack

def Traffic.total : Traffic → QueueSample → ℚ
  | publish, sample => sample.publishedTotal
  | ack, sample => sample.ackedTotal

def Traffic.rate : Traffic → Option ℚ × Option ℚ → Option ℚ
  | publish, rates => rates.1
  | ack, rates => rates.2

/-- The tracker after the updates of a history, the newest first. -/
def updatedTracker (history : List RateUpdate) : RateTracker :=
  after (fun tracker update => (tracker.update update.samples update.now).1) {} history

/-- The rates that an update returns after the earlier ones. -/
def ratesAt (update : RateUpdate) (earlier : List RateUpdate) :
    Dict SampleKey (Option ℚ × Option ℚ) :=
  ((updatedTracker earlier).update update.samples update.now).2

/-- The rate of a queue that an update returns, if it computes one. -/
def computedRate (traffic : Traffic) (key : SampleKey) (update : RateUpdate)
    (earlier : List RateUpdate) : Option ℚ :=
  ((ratesAt update earlier).get? key).bind traffic.rate

/-- The update right before shows a queue with a time and a sample. -/
def precedingSample (key : SampleKey) (earlier : List RateUpdate) :
    Option (Seconds × QueueSample) :=
  earlier.head?.bind fun before => (before.samples.get? key).map fun sample => (before.now, sample)

/-- The tracker remembers the update right before, and nothing else. -/
theorem updatedTracker_previous (earlier : List RateUpdate) (key : SampleKey) :
    (updatedTracker earlier).previous.get? key = precedingSample key earlier := by
  cases earlier with
  | nil => rfl
  | cons before older =>
      rw [updatedTracker, after_cons]
      exact Dict.get?_mapValues _ _ _

theorem get?_ratesAt (update : RateUpdate) (earlier : List RateUpdate) (key : SampleKey) :
    (ratesAt update earlier).get? key = (update.samples.get? key).map
      ((updatedTracker earlier).rateOf update.now key) :=
  Dict.get?_mapValues _ _ _

/-- A rate compares the counter with the update right before, if time has passed since it. -/
theorem rate_rateOf (traffic : Traffic) (update : RateUpdate) (earlier : List RateUpdate)
    (key : SampleKey) (sample : QueueSample) :
    traffic.rate ((updatedTracker earlier).rateOf update.now key sample) =
      (precedingSample key earlier).bind fun baseline =>
        if update.now ≤ baseline.1 then none
        else rate (traffic.total baseline.2) (traffic.total sample) (update.now - baseline.1) := by
  unfold RateTracker.rateOf
  rw [updatedTracker_previous]
  cases precedingSample key earlier with
  | none => cases traffic <;> rfl
  | some baseline =>
      dsimp only [Option.bind_some]
      split <;> cases traffic <;> rfl

theorem rate_eq_none_iff (before now elapsed : ℚ) :
    rate before now elapsed = none ↔ now < before := by
  unfold rate
  split
  · rename_i reset
    exact iff_of_true rfl reset
  · rename_i kept
    exact iff_of_false (Option.some_ne_none _) kept

/-- A computed rate is what the counter gained in the elapsed time. -/
theorem rate_eq_some_iff (before now elapsed value : ℚ) :
    rate before now elapsed = some value ↔
      before ≤ now ∧ (now - before) / elapsed = value := by
  unfold rate
  split
  · rename_i reset
    exact iff_of_false (Option.some_ne_none value).symm fun both => absurd reset (not_lt.mpr both.1)
  · rename_i kept
    rw [Option.some.injEq]
    exact (and_iff_right (not_lt.mp kept)).symm

section Rates

variable (traffic : Traffic) (key : SampleKey) (update : RateUpdate) (earlier : List RateUpdate)

/-- A rate is computed exactly from an older sample of the update right before. -/
theorem computedRate_eq_some_iff (value : ℚ) :
    computedRate traffic key update earlier = some value ↔
      ∃ sample baseline, update.samples.get? key = some sample ∧
        precedingSample key earlier = some baseline ∧ baseline.1 < update.now ∧
          traffic.total baseline.2 ≤ traffic.total sample ∧
            (traffic.total sample - traffic.total baseline.2) / (update.now - baseline.1) =
              value := by
  unfold computedRate
  rw [get?_ratesAt]
  cases shown : update.samples.get? key with
  | none => simp
  | some sample =>
      rw [Option.map_some, Option.bind_some, rate_rateOf]
      cases precedingSample key earlier with
      | none => simp
      | some baseline =>
          simp only [Option.bind_some, Option.some.injEq]
          split
          · rename_i stale
            simp [not_lt.mpr stale]
          · rename_i fresh
            rw [rate_eq_some_iff]
            simp [not_le.mp fresh]

/-- A computed rate is not negative, and zero exactly when the counter did not move. -/
theorem computedRate_sound (value : ℚ)
    (computed : computedRate traffic key update earlier = some value) :
    0 ≤ value ∧ ∃ before ∈ earlier.head?, ∃ old sample, before.samples.get? key = some old ∧
      update.samples.get? key = some sample ∧ before.now < update.now ∧
        (value = 0 ↔ traffic.total sample = traffic.total old) ∧
          value * (update.now - before.now) = traffic.total sample - traffic.total old := by
  obtain ⟨sample, baseline, shown, found, later, kept, same⟩ :=
    (computedRate_eq_some_iff traffic key update earlier value).mp computed
  obtain ⟨before, head, old⟩ := Option.bind_eq_some_iff.mp found
  obtain ⟨oldSample, listed, pair⟩ := Option.map_eq_some_iff.mp old
  rw [← pair] at later kept same
  have elapsed : 0 < update.now - before.now := sub_pos.mpr later
  refine ⟨?_, before, head, oldSample, sample, listed, shown, later, ?_, ?_⟩
  · rw [← same]
    exact div_nonneg (sub_nonneg.mpr kept) elapsed.le
  · rw [← same, div_eq_zero_iff, or_iff_left elapsed.ne', sub_eq_zero]
  · rw [← same]
    exact div_mul_cancel₀ _ elapsed.ne'

/-- A queue has no computed rate when it is new, when no time passed, or when its counter fell. -/
theorem rate_missing_iff (sample : QueueSample) (shown : update.samples.get? key = some sample) :
    computedRate traffic key update earlier = none ↔
      (∀ before ∈ earlier.head?, before.samples.get? key = none) ∨
        (∃ before ∈ earlier.head?, update.now ≤ before.now) ∨
          ∃ before ∈ earlier.head?, ∃ old, before.samples.get? key = some old ∧
            traffic.total sample < traffic.total old := by
  have value : computedRate traffic key update earlier =
      (precedingSample key earlier).bind fun baseline =>
        if update.now ≤ baseline.1 then none
        else rate (traffic.total baseline.2) (traffic.total sample)
          (update.now - baseline.1) := by
    unfold computedRate
    rw [get?_ratesAt, shown, Option.map_some, Option.bind_some, rate_rateOf]
  rw [value]
  unfold precedingSample
  cases earlier.head? with
  | none => simp
  | some before =>
      simp only [Option.bind_some, Option.mem_some_iff, forall_eq', exists_eq_left']
      cases before.samples.get? key with
      | none => simp
      | some old =>
          rw [Option.map_some, Option.bind_some]
          dsimp only
          split
          · rename_i stale
            exact iff_of_true rfl (.inr (.inl stale))
          · rename_i fresh
            rw [rate_eq_none_iff]
            simp [fresh]

end Rates

section Stretch

variable (traffic : Traffic) (key : SampleKey) (base : RateUpdate) (older : List RateUpdate)

/-- The messages that the rates of a stretch count in the time between its updates. -/
def countedMessages : List RateUpdate → ℚ
  | [] => 0
  | update :: newer =>
      (computedRate traffic key update (newer ++ base :: older)).getD 0 *
        (update.now - (newer.head?.getD base).now) + countedMessages newer

/-- Every update of a stretch after its base computes the rate. -/
def ComputedStretch (newer : List RateUpdate) : Prop :=
  ∀ update rest, update :: rest <:+ newer →
    computedRate traffic key update (rest ++ base :: older) ≠ none

/-- The rates of a stretch count what the counter gained since its base. -/
theorem countedMessages_eq (update : RateUpdate) (newer : List RateUpdate)
    (computed : ComputedStretch traffic key base older (update :: newer)) :
    ∃ first last, base.samples.get? key = some first ∧ update.samples.get? key = some last ∧
      countedMessages traffic key base older (update :: newer) =
        traffic.total last - traffic.total first := by
  induction newer generalizing update with
  | nil =>
      obtain ⟨value, known⟩ := Option.ne_none_iff_exists'.mp
        (computed update [] (List.suffix_refl _))
      obtain ⟨_, before, head, old, sample, listed, shown, _, _, counted⟩ :=
        computedRate_sound traffic key update _ value known
      cases head
      refine ⟨old, sample, listed, shown, ?_⟩
      rw [countedMessages, known, countedMessages, add_zero]
      exact counted
  | cons previous newer ih =>
      obtain ⟨first, last, start, reached, earlier⟩ := ih previous fun other rest suffix =>
        computed other rest (suffix.trans (List.suffix_cons update _))
      obtain ⟨value, known⟩ := Option.ne_none_iff_exists'.mp
        (computed update (previous :: newer) (List.suffix_refl _))
      obtain ⟨_, before, head, old, sample, listed, shown, _, _, counted⟩ :=
        computedRate_sound traffic key update _ value known
      cases head
      rw [reached, Option.some.injEq] at listed
      refine ⟨first, sample, start, shown, ?_⟩
      rw [countedMessages, known, earlier]
      show value * (update.now - previous.now) + _ = _
      rw [counted, listed]
      exact sub_add_sub_cancel _ _ _

end Stretch

/-- The rates of a run: which ones are missing, what the computed ones mean, and that the rates of a
stretch lose no message and count none twice. -/
structure RateLaw (history : List RateUpdate) : Prop where
  keys : ∀ update earlier, update :: earlier <:+ history →
    (ratesAt update earlier).items.map Prod.fst = update.samples.items.map Prod.fst
  missing : ∀ update earlier, update :: earlier <:+ history → ∀ traffic key sample,
    update.samples.get? key = some sample →
      (computedRate traffic key update earlier = none ↔
        (∀ before ∈ earlier.head?, before.samples.get? key = none) ∨
          (∃ before ∈ earlier.head?, update.now ≤ before.now) ∨
            ∃ before ∈ earlier.head?, ∃ old, before.samples.get? key = some old ∧
              traffic.total sample < traffic.total old)
  computed : ∀ update earlier, update :: earlier <:+ history → ∀ traffic key value,
    computedRate traffic key update earlier = some value →
      0 ≤ value ∧ ∃ before ∈ earlier.head?, ∃ old sample,
        before.samples.get? key = some old ∧ update.samples.get? key = some sample ∧
          (value = 0 ↔ traffic.total sample = traffic.total old)
  total : ∀ traffic key update newer base older, update :: newer ++ base :: older <:+ history →
    ComputedStretch traffic key base older (update :: newer) →
      ∃ first last, base.samples.get? key = some first ∧ update.samples.get? key = some last ∧
        countedMessages traffic key base older (update :: newer) =
          traffic.total last - traffic.total first

/-- Every sequence of updates follows the law. -/
theorem rateLaw (history : List RateUpdate) : RateLaw history := by
  refine ⟨?_, ?_, ?_, ?_⟩
  · intro update earlier _
    show (update.samples.items.map fun item => (item.1, _)).map Prod.fst = _
    rw [List.map_map]
    rfl
  · intro update earlier _ traffic key sample shown
    exact rate_missing_iff traffic key update earlier sample shown
  · intro update earlier _ traffic key value computed
    obtain ⟨positive, before, head, old, sample, listed, shown, _, still, _⟩ :=
      computedRate_sound traffic key update earlier value computed
    exact ⟨positive, before, head, old, sample, listed, shown, still⟩
  · intro traffic key update newer base older _ computed
    exact countedMessages_eq traffic key base older update newer computed

end OperationsConsole
