/-
This file decides for which durations the two formatters of the browser write the normal form.
The unit is chosen before the number is rounded, so the number can reach the next unit.
-/

import Mathlib.Tactic.NormNum
import OperationsConsole.Browser.QueueHealth
import OperationsConsole.Library.Listing
import OperationsConsole.Library.Numerals

namespace OperationsConsole.Browser

open Library

/-- The text of a duration in seconds that are at least the given number. -/
def durationText (least : ℤ) (seconds : ℚ) : String :=
  if seconds < 60 then s!"{max least (mathRound seconds)}s"
  else if seconds < 3600 then s!"{mathRound (seconds / 60)}m"
  else
    let h := ⌊seconds / 3600⌋
    let m := mathRound ((seconds - h * 3600) / 60)
    if m = 0 then s!"{h}h"
    else if 0 ≤ m ∧ m < 10 then s!"{h}h0{m}m"
    else s!"{h}h{m}m"

/-- This is `_formatRunDuration`. A run that has not finished has no duration. -/
def formatRunDuration : Option ℚ → String
  | none => "—"
  | some seconds => durationText 0 seconds

theorem formatDuration_eq (seconds : ℚ) : formatDuration seconds = durationText 1 seconds := rfl

/-- A written duration counts seconds or minutes, or hours and the minutes that are left. -/
inductive Duration where
  | seconds (count : ℕ)
  | minutes (count : ℕ)
  | hours (count left : ℕ)
  deriving DecidableEq

namespace Duration

def text : Duration → String
  | seconds count => s!"{count}s"
  | minutes count => s!"{count}m"
  | hours count left =>
      if left = 0 then s!"{count}h" else s!"{count}h{String.ofList (twoDigits left)}m"

/-- The value in seconds. -/
def value : Duration → ℚ
  | seconds count => count
  | minutes count => 60 * count
  | hours count left => 3600 * count + 60 * left

/-- The last place in seconds. Minutes that are not written are zero. -/
def unit : Duration → ℚ
  | seconds _ => 1
  | minutes _ => 60
  | hours _ _ => 60

/-- In the normal form a number does not reach the next unit. -/
def Normal : Duration → Prop
  | seconds count => count < 60
  | minutes count => count < 60
  | hours _ left => left < 60

end Duration

/-- A formatter writes the normal form of a duration when the value is within half a unit of the
duration, unless the least number of seconds is written, and no shorter duration has more. -/
structure NormalForm (format : ℚ → String) (least : ℕ) (seconds : ℚ) : Prop where
  written : ∃ duration : Duration, format seconds = duration.text ∧ duration.Normal ∧
    (|duration.value - seconds| ≤ duration.unit / 2 ∨
      duration = .seconds least ∧ seconds < least)
  grows : ∀ earlier, 0 ≤ earlier → earlier ≤ seconds → ∀ first second : Duration,
    format earlier = first.text → format seconds = second.text → first.value ≤ second.value

/-- Both formatters write the normal form, and they agree from one second on. -/
structure DurationLaw (seconds : ℚ) : Prop where
  live : NormalForm formatDuration 1 seconds
  run : NormalForm (fun seconds => formatRunDuration (some seconds)) 0 seconds
  agree : 1 ≤ seconds → formatDuration seconds = formatRunDuration (some seconds)

/-- The rounding carries in the last half second of a minute of seconds, and in the last half minute
of an hour. -/
def Carries (seconds : ℚ) : Prop :=
  119 / 2 ≤ seconds ∧ seconds < 60 ∨ 3570 ≤ seconds - 3600 * ⌊seconds / 3600⌋

section Text

theorem toList_seconds (count : ℕ) :
    (Duration.seconds count).text.toList = Nat.toDigits 10 count ++ ['s'] := by
  simp [Duration.text, toString]

theorem toList_minutes (count : ℕ) :
    (Duration.minutes count).text.toList = Nat.toDigits 10 count ++ ['m'] := by
  simp [Duration.text, toString]

theorem toList_hours (count left : ℕ) : (Duration.hours count left).text.toList =
    Nat.toDigits 10 count ++ 'h' :: (if left = 0 then [] else twoDigits left ++ ['m']) := by
  unfold Duration.text
  dsimp only
  split <;> simp [toString]

/-- No hour stands in a number of seconds or of minutes. -/
theorem hour_not_mem (count : ℕ) (mark : Char) (other : mark ≠ 'h') :
    'h' ∉ Nat.toDigits 10 count ++ [mark] := by
  rw [List.mem_append, List.mem_singleton, not_or]
  exact ⟨not_mem_toDigits 'h' (by decide) count, other.symm⟩

/-- The text tells the duration. -/
theorem text_injective (first second : Duration) (same : first.text = second.text) :
    first = second := by
  have written := congrArg String.toList same
  cases first with
  | seconds one =>
      rw [toList_seconds] at written
      cases second with
      | seconds two =>
          rw [toList_seconds] at written
          rw [toDigits_injective one two (List.append_cancel_right written)]
      | minutes two =>
          rw [toList_minutes] at written
          exact absurd (List.append_inj_right' written rfl) (by decide)
      | hours two left =>
          rw [toList_hours] at written
          exact absurd (written ▸ by simp) (hour_not_mem one 's' (by decide))
  | minutes one =>
      rw [toList_minutes] at written
      cases second with
      | seconds two =>
          rw [toList_seconds] at written
          exact absurd (List.append_inj_right' written rfl) (by decide)
      | minutes two =>
          rw [toList_minutes] at written
          rw [toDigits_injective one two (List.append_cancel_right written)]
      | hours two left =>
          rw [toList_hours] at written
          exact absurd (written ▸ by simp) (hour_not_mem one 'm' (by decide))
  | hours one left =>
      rw [toList_hours] at written
      cases second with
      | seconds two =>
          rw [toList_seconds] at written
          exact absurd (written ▸ by simp) (hour_not_mem two 's' (by decide))
      | minutes two =>
          rw [toList_minutes] at written
          exact absurd (written ▸ by simp) (hour_not_mem two 'm' (by decide))
      | hours two rest =>
          rw [toList_hours] at written
          obtain ⟨hours, minutes⟩ := divided_first 'h' _ _ _ _
            (not_mem_toDigits 'h' (by decide) one) (not_mem_toDigits 'h' (by decide) two) written
          rw [toDigits_injective one two hours]
          by_cases none : left = 0
          · rw [if_pos none] at minutes
            by_cases zero : rest = 0
            · rw [none, zero]
            · rw [if_neg zero] at minutes
              exact absurd minutes.symm (by simp)
          · rw [if_neg none] at minutes
            by_cases zero : rest = 0
            · rw [if_pos zero] at minutes
              exact absurd minutes (by simp)
            · rw [if_neg zero] at minutes
              rw [twoDigits_injective left rest (List.append_cancel_right minutes)]

end Text

section Rounding

theorem mathRound_mono (first second : ℚ) (less : first ≤ second) :
    mathRound first ≤ mathRound second :=
  Int.floor_le_floor (by linarith)

theorem mathRound_nonneg (number : ℚ) (nonneg : 0 ≤ number) : 0 ≤ mathRound number :=
  Int.floor_nonneg.mpr (by linarith)

/-- A rounded number is within one half. -/
theorem mathRound_near (number : ℚ) : |(mathRound number : ℚ) - number| ≤ 1 / 2 := by
  have below := Int.floor_le (number + 1 / 2)
  have above := Int.lt_floor_add_one (number + 1 / 2)
  unfold mathRound
  rw [abs_le]
  constructor <;> linarith

/-- A whole number can be taken out of a rounding. -/
theorem mathRound_sub_int (number : ℚ) (whole : ℤ) :
    mathRound (number - whole) = mathRound number - whole := by
  unfold mathRound
  rw [← Int.floor_sub_intCast]
  congr 1
  ring

/-- A rounding is at least a whole number exactly from half below it on. -/
theorem le_mathRound_iff (whole : ℤ) (number : ℚ) :
    whole ≤ mathRound number ↔ (whole : ℚ) - 1 / 2 ≤ number := by
  unfold mathRound
  rw [Int.le_floor]
  constructor <;> intro less <;> linarith

/-- A rounding is below a whole number exactly below half under it. -/
theorem mathRound_lt_iff (whole : ℤ) (number : ℚ) :
    mathRound number < whole ↔ number < (whole : ℚ) - 1 / 2 := by
  rw [← not_le, le_mathRound_iff, not_le]

end Rounding

section Written

variable (least : ℕ) (seconds : ℚ)

/-- The duration that the formatters write. -/
def writtenDuration : Duration :=
  if seconds < 60 then .seconds (max least (mathRound seconds).toNat)
  else if seconds < 3600 then .minutes (mathRound (seconds / 60)).toNat
  else .hours ⌊seconds / 3600⌋.toNat
    (mathRound ((seconds - ⌊seconds / 3600⌋ * 3600) / 60)).toNat

/-- The seconds that are left over from the hours. -/
theorem left_bounds : 0 ≤ seconds - ⌊seconds / 3600⌋ * 3600 ∧
    seconds - ⌊seconds / 3600⌋ * 3600 < 3600 := by
  have below := Int.floor_le (seconds / 3600)
  have above := Int.lt_floor_add_one (seconds / 3600)
  constructor <;> linarith

omit least seconds in
/-- Fewer than ten minutes are padded. -/
theorem hours_text (hours left : ℕ) :
    (if (left : ℤ) = 0 then s!"{(hours : ℤ)}h"
      else if 0 ≤ (left : ℤ) ∧ (left : ℤ) < 10 then s!"{(hours : ℤ)}h0{(left : ℤ)}m"
      else s!"{(hours : ℤ)}h{(left : ℤ)}m") = (Duration.hours hours left).text := by
  apply String.toList_injective
  rw [toList_hours]
  have digits (number : ℕ) : (number : ℤ).repr.toList = Nat.toDigits 10 number :=
    Nat.toList_repr
  by_cases none : left = 0
  · rw [if_pos (by exact_mod_cast none), if_pos none]
    simp [digits, toString]
  · rw [if_neg (by exact_mod_cast none), if_neg none]
    by_cases short : left < 10
    · rw [if_pos ⟨Int.natCast_nonneg left, by exact_mod_cast short⟩, twoDigits, if_pos short]
      simp [digits, toString]
    · rw [if_neg (by omega), twoDigits, if_neg short]
      simp [digits, toString]

/-- The text of a duration is that of the written duration. -/
theorem durationText_eq (nonneg : 0 ≤ seconds) :
    durationText least seconds = (writtenDuration least seconds).text := by
  unfold durationText writtenDuration
  split
  · obtain ⟨count, rounded⟩ := Int.eq_ofNat_of_zero_le (mathRound_nonneg seconds nonneg)
    rw [rounded, Int.toNat_natCast, ← Nat.cast_max]
    rfl
  · split
    · obtain ⟨count, rounded⟩ := Int.eq_ofNat_of_zero_le
        (mathRound_nonneg (seconds / 60) (by linarith))
      rw [rounded, Int.toNat_natCast]
      rfl
    · obtain ⟨hours, whole⟩ := Int.eq_ofNat_of_zero_le
        (Int.floor_nonneg.mpr (div_nonneg nonneg (by norm_num : (0 : ℚ) ≤ 3600)))
      obtain ⟨left, rounded⟩ := Int.eq_ofNat_of_zero_le (mathRound_nonneg
        ((seconds - ⌊seconds / 3600⌋ * 3600) / 60) (by linarith [left_bounds seconds]))
      dsimp only
      rw [rounded, whole, Int.toNat_natCast, Int.toNat_natCast]
      exact hours_text hours left

/-- From a minute on, the value is rounded to minutes. -/
theorem value_writtenDuration (long : 60 ≤ seconds) :
    (writtenDuration least seconds).value = 60 * mathRound (seconds / 60) := by
  unfold writtenDuration
  rw [if_neg (not_lt.mpr long)]
  have rounded := mathRound_nonneg (seconds / 60) (by linarith)
  split
  · unfold Duration.value
    dsimp only
    rw [← Int.cast_natCast, Int.toNat_of_nonneg rounded]
  · have whole : 0 ≤ ⌊seconds / 3600⌋ :=
      Int.floor_nonneg.mpr (div_nonneg (by linarith) (by norm_num))
    have left := mathRound_nonneg ((seconds - ⌊seconds / 3600⌋ * 3600) / 60)
      (by linarith [left_bounds seconds])
    -- The hours are a whole number of minutes, so they pass through the rounding.
    have split : (seconds - ⌊seconds / 3600⌋ * 3600) / 60 =
        seconds / 60 - ((60 * ⌊seconds / 3600⌋ : ℤ) : ℚ) := by
      push_cast
      ring
    unfold Duration.value
    dsimp only
    rw [← Int.cast_natCast, Int.toNat_of_nonneg whole, ← Int.cast_natCast,
      Int.toNat_of_nonneg left, split, mathRound_sub_int]
    push_cast
    ring

/-- The written value is within half a unit, unless the least number of seconds is written. -/
theorem writtenDuration_near (nonneg : 0 ≤ seconds) :
    |(writtenDuration least seconds).value - seconds| ≤ (writtenDuration least seconds).unit / 2 ∨
      writtenDuration least seconds = .seconds least ∧ seconds < least := by
  by_cases short : seconds < 60
  · have near := mathRound_near seconds
    obtain ⟨count, rounded⟩ := Int.eq_ofNat_of_zero_le (mathRound_nonneg seconds nonneg)
    have written : writtenDuration least seconds = .seconds (max least count) := by
      rw [writtenDuration, if_pos short, rounded, Int.toNat_natCast]
    rw [written]
    rw [rounded, Int.cast_natCast] at near
    by_cases enough : least ≤ count
    · rw [max_eq_right enough]
      exact .inl near
    · right
      rw [max_eq_left (not_le.mp enough).le]
      refine ⟨rfl, ?_⟩
      have fewer : ¬ (least : ℤ) ≤ mathRound seconds := by
        rw [rounded]
        exact_mod_cast enough
      rw [le_mathRound_iff, Int.cast_natCast] at fewer
      linarith
  · left
    have near := mathRound_near (seconds / 60)
    have unit : (writtenDuration least seconds).unit = 60 := by
      unfold writtenDuration
      rw [if_neg short]
      split <;> rfl
    rw [value_writtenDuration least seconds (not_lt.mp short), unit]
    rw [abs_le] at near ⊢
    constructor <;> linarith

/-- The number of a shorter unit reaches sixty exactly when the rounding carries. -/
theorem normal_writtenDuration_iff (nonneg : 0 ≤ seconds) (small : least < 60) :
    (writtenDuration least seconds).Normal ↔ ¬ Carries seconds := by
  have bounds := left_bounds seconds
  by_cases short : seconds < 60
  · have none : ⌊seconds / 3600⌋ = 0 := by
      rw [Int.floor_eq_zero_iff]
      constructor <;> linarith
    unfold writtenDuration Carries
    rw [if_pos short, none]
    change max least (mathRound seconds).toNat < 60 ↔ _
    rw [max_lt_iff, Int.toNat_lt (mathRound_nonneg seconds nonneg), Nat.cast_ofNat,
      mathRound_lt_iff]
    push_cast
    constructor
    · rintro ⟨_, low⟩ (⟨high, _⟩ | late) <;> linarith
    · intro clear
      refine ⟨small, not_le.mp fun high => clear (.inl ⟨by linarith, short⟩)⟩
  · have left := mathRound_nonneg ((seconds - ⌊seconds / 3600⌋ * 3600) / 60)
      (by linarith [left_bounds seconds])
    have normal : (writtenDuration least seconds).Normal ↔
        mathRound ((seconds - ⌊seconds / 3600⌋ * 3600) / 60) < 60 := by
      unfold writtenDuration
      rw [if_neg short]
      split
      · rename_i under
        have none : ⌊seconds / 3600⌋ = 0 := by
          rw [Int.floor_eq_zero_iff]
          constructor <;> linarith
        rw [none] at left ⊢
        rw [Int.cast_zero, zero_mul, sub_zero] at left ⊢
        exact Int.toNat_lt left
      · exact Int.toNat_lt left
    rw [normal, mathRound_lt_iff]
    unfold Carries
    push_cast
    constructor
    · rintro low (⟨_, under⟩ | late)
      · exact short under
      · linarith
    · intro clear
      have early := not_le.mp fun late => clear (.inr late)
      linarith

/-- A longer duration has at least the written value. -/
theorem value_writtenDuration_mono (earlier : ℚ) (less : earlier ≤ seconds) (small : least ≤ 60) :
    (writtenDuration least earlier).value ≤ (writtenDuration least seconds).value := by
  have minute (long : 60 ≤ seconds) : (60 : ℚ) ≤ 60 * mathRound (seconds / 60) := by
    have one : 1 ≤ mathRound (seconds / 60) := (le_mathRound_iff 1 _).mpr (by push_cast; linarith)
    have cast : (1 : ℚ) ≤ mathRound (seconds / 60) := by exact_mod_cast one
    linarith
  by_cases short : seconds < 60
  · unfold writtenDuration
    rw [if_pos short, if_pos (lt_of_le_of_lt less short)]
    change ((max least (mathRound earlier).toNat : ℕ) : ℚ) ≤ (max least (mathRound seconds).toNat : ℕ)
    exact_mod_cast max_le_max_left least (Int.toNat_le_toNat (mathRound_mono earlier seconds less))
  · rw [value_writtenDuration least seconds (not_lt.mp short)]
    by_cases brief : earlier < 60
    · refine le_trans ?_ (minute (not_lt.mp short))
      unfold writtenDuration
      rw [if_pos brief]
      change ((max least (mathRound earlier).toNat : ℕ) : ℚ) ≤ 60
      have bounded : mathRound earlier ≤ 60 :=
        (Int.lt_add_one_iff).mp ((mathRound_lt_iff 61 earlier).mpr (by push_cast; linarith))
      exact_mod_cast max_le small (Int.toNat_le.mpr bounded)
    · rw [value_writtenDuration least earlier (not_lt.mp brief)]
      have rounded := mathRound_mono (earlier / 60) (seconds / 60) (by linarith)
      have cast : (mathRound (earlier / 60) : ℚ) ≤ mathRound (seconds / 60) := by
        exact_mod_cast rounded
      linarith

/-- A formatter writes the normal form exactly when the rounding does not carry. -/
theorem normalForm_iff (format : ℚ → String)
    (written : ∀ seconds, 0 ≤ seconds → format seconds = durationText least seconds)
    (nonneg : 0 ≤ seconds) (small : least < 60) :
    NormalForm format least seconds ↔ ¬ Carries seconds := by
  have told (duration : ℚ) (from_zero : 0 ≤ duration) :
      format duration = (writtenDuration least duration).text :=
    (written duration from_zero).trans (durationText_eq least duration from_zero)
  rw [← normal_writtenDuration_iff least seconds nonneg small]
  constructor
  · rintro ⟨⟨duration, text, normal, _⟩, _⟩
    rw [text_injective _ _ ((told seconds nonneg).symm.trans text)]
    exact normal
  · intro normal
    constructor
    · exact ⟨_, told seconds nonneg, normal, writtenDuration_near least seconds nonneg⟩
    · intro earlier start less first second one two
      rw [← text_injective _ _ ((told earlier start).symm.trans one),
        ← text_injective _ _ ((told seconds nonneg).symm.trans two)]
      exact value_writtenDuration_mono least seconds earlier less small.le

end Written

/-- From one second on, the formatters write the same text. -/
theorem formatters_agree (seconds : ℚ) (long : 1 ≤ seconds) :
    formatDuration seconds = formatRunDuration (some seconds) := by
  rw [formatDuration_eq]
  change durationText 1 seconds = durationText 0 seconds
  unfold durationText
  have counted : 1 ≤ mathRound seconds := (le_mathRound_iff 1 seconds).mpr (by push_cast; linarith)
  rw [max_eq_right counted, max_eq_right (by omega)]

/-- Durations are written in normal form exactly when the rounding does not carry. -/
theorem durationLaw_iff (seconds : ℚ) (nonneg : 0 ≤ seconds) :
    DurationLaw seconds ↔ ¬ Carries seconds := by
  have live := normalForm_iff 1 seconds formatDuration (fun other _ => formatDuration_eq other)
    nonneg (by norm_num)
  have run := normalForm_iff 0 seconds (fun seconds => formatRunDuration (some seconds))
    (fun _ _ => rfl) nonneg (by norm_num)
  constructor
  · intro law
    exact live.mp law.live
  · intro clear
    exact ⟨live.mpr clear, run.mpr clear, formatters_agree seconds⟩

/-- A minute before the hour is written in normal form. -/
theorem durationLaw_fiftyNine : DurationLaw 3540 := by
  apply (durationLaw_iff 3540 (by norm_num)).mpr
  unfold Carries
  rintro (⟨_, under⟩ | late)
  · norm_num at under
  · have whole : ⌊(3540 : ℚ) / 3600⌋ = 0 := by norm_num
    rw [whole] at late
    norm_num at late

/-- A duration of 59.7 seconds is written as sixty seconds. -/
theorem durationLaw_fails : ¬ DurationLaw (597 / 10) := by
  rintro ⟨⟨⟨duration, text, normal, _⟩, _⟩, _, _⟩
  have written : formatDuration (597 / 10) = (Duration.seconds 60).text := by decide +kernel
  rw [← text_injective _ _ (written.symm.trans text)] at normal
  exact absurd normal (Nat.lt_irrefl 60)

end OperationsConsole.Browser
