/-
This file defines a stopwatch over samples of one signal.
The stopwatch runs while every sample holds and no two samples are further apart than a gap.
-/

import Mathlib.Algebra.Order.Group.Defs
import Mathlib.Data.List.Chain
import OperationsConsole.Library.Loop

namespace Library

/-- A sample loses the signal or reads it at one instant. -/
inductive Sample (τ : Type*) where
  | lost
  | read (time : τ) (holds : Bool)

/-- The watch keeps the start of the current run and the time of the last sample. -/
structure Stopwatch (τ : Type*) where
  since : Option τ := none
  seen : Option τ := none
  deriving DecidableEq

variable {τ : Type*}

/-- Each instant of a list of counted instants occurs once more than its count. -/
def repeated (items : List (τ × Nat)) : List τ :=
  items.flatMap fun item => List.replicate (item.2 + 1) item.1

@[simp] theorem repeated_cons (item : τ × Nat) (rest : List (τ × Nat)) :
    repeated (item :: rest) = List.replicate (item.2 + 1) item.1 ++ repeated rest := rfl

theorem mem_repeated (items : List (τ × Nat)) (time : τ) :
    time ∈ repeated items ↔ time ∈ items.map Prod.fst := by
  rw [repeated, List.mem_flatMap, List.mem_map]
  constructor
  · intro ⟨item, member, inside⟩
    exact ⟨item, member, (List.eq_of_mem_replicate inside).symm⟩
  · intro ⟨item, member, same⟩
    exact ⟨item, member, by rw [← same]; simp⟩

theorem getLast?_repeated (items : List (τ × Nat)) :
    (repeated items).getLast? = (items.map Prod.fst).getLast? := by
  induction items with
  | nil => rfl
  | cons item rest ih =>
      rw [repeated_cons, List.getLast?_append, ih, List.map_cons, List.getLast?_cons]
      cases (rest.map Prod.fst).getLast? with
      | none => simp [List.getLast?_replicate]
      | some last => rfl

variable [AddCommGroup τ] [LinearOrder τ]

/-- A run restarts after a gap and ends at a sample that does not hold. -/
def Stopwatch.feed (gap : τ) (watch : Stopwatch τ) : Sample τ → Stopwatch τ
  | .lost => {}
  | .read time holds =>
      let late := watch.seen.any fun last => gap < time - last
      let continued := if late then none else watch.since
      ⟨if holds then some (continued.getD time) else none, some time⟩

/-- The current run of a history lists its instants, the newest first. -/
def currentRun (gap : τ) : List (Sample τ) → List τ
  | [] => []
  | .lost :: _ => []
  | .read _ false :: _ => []
  | .read time true :: earlier =>
      match currentRun gap earlier with
      | [] => [time]
      | last :: older => if gap < time - last then [time] else time :: last :: older

/-- A nonempty run extends the earlier run or stands alone. -/
theorem currentRun_true (gap time : τ) (earlier : List (Sample τ)) :
    currentRun gap (.read time true :: earlier) =
      time :: (if (currentRun gap earlier).head?.any (fun last => gap < time - last) then []
        else currentRun gap earlier) := by
  rw [currentRun]
  cases currentRun gap earlier with
  | nil => simp
  | cons last older =>
      by_cases late : gap < time - last <;> simp [late]

/-- The watch reads the last sample of the current run. -/
theorem Stopwatch.seen_of_run (gap : τ) (samples : List (Sample τ)) (last : τ)
    (newest : (currentRun gap samples).head? = some last) :
    (after (Stopwatch.feed gap) {} samples).seen = some last := by
  cases samples with
  | nil => simp [currentRun] at newest
  | cons sample earlier =>
      cases sample with
      | lost => simp [currentRun] at newest
      | read time holds =>
          cases holds with
          | false => simp [currentRun] at newest
          | true =>
              rw [currentRun_true, List.head?_cons] at newest
              rw [after_cons, Stopwatch.feed]
              exact newest

/-- The watch runs since the first instant of the current run. -/
theorem Stopwatch.since_eq (gap : τ) (samples : List (Sample τ)) :
    (after (Stopwatch.feed gap) {} samples).since = (currentRun gap samples).getLast? := by
  induction samples with
  | nil => rfl
  | cons sample earlier ih =>
      cases sample with
      | lost => rfl
      | read time holds =>
          cases holds with
          | false => simp [Stopwatch.feed, currentRun]
          | true =>
              have seen := Stopwatch.seen_of_run gap earlier
              rw [currentRun_true, after_cons, Stopwatch.feed]
              dsimp only
              rw [ih, if_pos rfl]
              cases run : currentRun gap earlier with
              | nil => simp
              | cons last older =>
                  rw [run, List.head?_cons] at seen
                  rw [seen last rfl]
                  by_cases late : gap < time - last
                  · simp [late]
                  · simp only [Option.any_some, late, decide_false, Bool.false_eq_true, if_false,
                      List.head?_cons]
                    simp [List.getLast?_cons]

/-- The current run is the newest part of its history, and every sample of it holds. -/
theorem currentRun_prefix (gap : τ) (samples : List (Sample τ)) :
    ∃ older, samples = (currentRun gap samples).map (fun time => .read time true) ++ older := by
  induction samples with
  | nil => exact ⟨[], rfl⟩
  | cons sample earlier ih =>
      cases sample with
      | lost => exact ⟨_, rfl⟩
      | read time holds =>
          cases holds with
          | false => exact ⟨_, rfl⟩
          | true =>
              rw [currentRun_true]
              split
              · exact ⟨earlier, rfl⟩
              · obtain ⟨older, same⟩ := ih
                refine ⟨older, ?_⟩
                rw [List.map_cons, List.cons_append, ← same]

/-- Two consecutive instants of the current run are at most the gap apart. -/
theorem currentRun_chain (gap : τ) (samples : List (Sample τ)) :
    (currentRun gap samples).IsChain fun later former => later - former ≤ gap := by
  induction samples with
  | nil => exact List.IsChain.nil
  | cons sample earlier ih =>
      cases sample with
      | lost => exact List.IsChain.nil
      | read time holds =>
          cases holds with
          | false => exact List.IsChain.nil
          | true =>
              rw [currentRun_true]
              cases run : currentRun gap earlier with
              | nil => simp
              | cons last older =>
                  rw [run] at ih
                  by_cases late : gap < time - last
                  · simp [late]
                  · simp only [List.head?_cons, Option.any_some, late, decide_false,
                      Bool.false_eq_true, if_false]
                    exact List.IsChain.cons_cons (not_lt.mp late) ih

/-- The current run starts no later than any instant that precedes a held span. -/
theorem currentRun_last_le (gap time last : τ) (older : List (Sample τ))
    (ordered : ∀ earlier holds, Sample.read earlier holds ∈ older → earlier ≤ time)
    (first : (currentRun gap (.read time true :: older)).getLast? = some last) : last ≤ time := by
  rw [currentRun_true] at first
  have member := List.mem_of_getLast? first
  rw [List.mem_cons] at member
  rcases member with equal | member
  · exact le_of_eq equal
  · obtain ⟨rest, same⟩ := currentRun_prefix gap older
    split at member
    · simp at member
    · apply ordered last true
      rw [same]
      exact List.mem_append_left _ (List.mem_map.mpr ⟨last, member, rfl⟩)

/-- Every late step of a span ends at least the bound before the final instant. -/
def LateStepsEnd (gap bound final : τ) (span : List τ) : Prop :=
  ∀ newer later former rest, span = newer ++ later :: former :: rest →
    gap < later - former → bound ≤ final - later

theorem lateStepsEnd_cons (gap bound final later former : τ) (rest : List τ) :
    LateStepsEnd gap bound final (later :: former :: rest) ↔
      (gap < later - former → bound ≤ final - later) ∧
        LateStepsEnd gap bound final (former :: rest) := by
  constructor
  · intro ends
    refine ⟨ends [] later former rest rfl, ?_⟩
    intro newer last first older split
    exact ends (later :: newer) last first older (by rw [split, List.cons_append])
  · rintro ⟨head, tail⟩ newer last first older split
    cases newer with
    | nil =>
        simp only [List.nil_append, List.cons.injEq] at split
        rw [← split.1, ← split.2.1]
        exact head
    | cons time newer =>
        simp only [List.cons_append, List.cons.injEq] at split
        exact tail newer last first older split.2

/-- A held span of the bound's length keeps the watch running for the bound exactly when every
late step of the span ends at least the bound before the final instant. -/
theorem currentRun_reaches_iff [IsOrderedAddMonoid τ] (gap bound final : τ) (span : List τ)
    (older : List (Sample τ)) (first : τ) (oldest : span.getLast? = some first)
    (long : bound ≤ final - first) (ordered : span.Pairwise fun later former => former ≤ later)
    (before : ∀ earlier holds, Sample.read earlier holds ∈ older → earlier ≤ first) :
    ∃ start, (currentRun gap (span.map (fun time => .read time true) ++ older)).getLast? =
        some start ∧
      (bound ≤ final - start ↔ LateStepsEnd gap bound final span) := by
  induction span with
  | nil => simp at oldest
  | cons time rest ih =>
      rw [List.pairwise_cons] at ordered
      cases rest with
      | nil =>
          have same : time = first := by simpa using oldest
          have running : (currentRun gap (.read time true :: older)).getLast?.isSome := by
            rw [currentRun_true, List.getLast?_cons]
            rfl
          obtain ⟨start, found⟩ := Option.isSome_iff_exists.mp running
          refine ⟨start, found, ?_⟩
          have early := currentRun_last_le gap time start older (same ▸ before) found
          have reached : bound ≤ final - start :=
            long.trans (sub_le_sub_left (same ▸ early) final)
          refine ⟨fun _ newer later former rest split => ?_, fun _ => reached⟩
          have size := congrArg List.length split
          simp at size
          omega
      | cons former rest =>
          have inner : (former :: rest).getLast? = some first := by
            rw [List.getLast?_cons_cons] at oldest
            exact oldest
          obtain ⟨start, found, reach⟩ := ih inner ordered.2
          rw [lateStepsEnd_cons, List.map_cons, List.cons_append, currentRun_true]
          have newest : (currentRun gap
              ((former :: rest).map (fun time => Sample.read time true) ++ older)).head? =
                some former := by
            rw [List.map_cons, List.cons_append, currentRun_true, List.head?_cons]
          rw [newest, Option.any_some]
          by_cases late : gap < time - former
          · refine ⟨time, by simp [late], ?_⟩
            refine ⟨fun far => ⟨fun _ => far, ?_⟩, fun ends => ends.1 late⟩
            intro newer later last older split _
            have member : later ∈ former :: rest := by
              rw [split]
              simp
            exact far.trans (sub_le_sub_left (ordered.1 later member) final)
          · refine ⟨start, ?_, ?_⟩
            · simp only [late, decide_false, Bool.false_eq_true, if_false]
              rw [List.getLast?_cons, found, Option.getD_some]
            · rw [reach]
              simp [late]

omit [AddCommGroup τ] in
theorem pairwise_repeated (items : List (τ × Nat))
    (ordered : (items.map Prod.fst).Pairwise fun later former => former ≤ later) :
    (repeated items).Pairwise fun later former => former ≤ later := by
  induction items with
  | nil => exact List.Pairwise.nil
  | cons item rest ih =>
      rw [List.map_cons, List.pairwise_cons] at ordered
      rw [repeated_cons, List.pairwise_append]
      refine ⟨List.pairwise_replicate.mpr (.inr le_rfl), ih ordered.2, ?_⟩
      intro later newest former member
      rw [List.eq_of_mem_replicate newest]
      exact ordered.1 former ((mem_repeated rest former).mp member)

/-- A repeated instant adds no late step. -/
theorem lateStepsEnd_replicate (gap bound final time : τ) (count : Nat) (rest : List τ)
    (nonneg : 0 ≤ gap) :
    LateStepsEnd gap bound final (List.replicate (count + 1) time ++ rest) ↔
      LateStepsEnd gap bound final (time :: rest) := by
  induction count with
  | zero => rfl
  | succ count ih =>
      rw [List.replicate_succ, List.replicate_succ, List.cons_append, List.cons_append,
        lateStepsEnd_cons, ← List.cons_append, ← List.replicate_succ, ih]
      have never : ¬ gap < time - time := by
        rw [sub_self]
        exact not_lt.mpr nonneg
      exact and_iff_right fun late => absurd late never

/-- Repeated instants have the late steps of the plain instants. -/
theorem lateStepsEnd_repeated (gap bound final : τ) (items : List (τ × Nat)) (nonneg : 0 ≤ gap) :
    LateStepsEnd gap bound final (repeated items) ↔
      LateStepsEnd gap bound final (items.map Prod.fst) := by
  induction items with
  | nil => rfl
  | cons item rest ih =>
      rw [repeated_cons, lateStepsEnd_replicate gap bound final item.1 item.2 _ nonneg]
      cases rest with
      | nil => rfl
      | cons next rest =>
          rw [repeated_cons, List.replicate_succ, List.cons_append, lateStepsEnd_cons,
            List.map_cons, List.map_cons, lateStepsEnd_cons, ← List.cons_append,
            ← List.replicate_succ, ← repeated_cons, ih, List.map_cons]

end Library
