/-
This file decides when no secret of a target stays untouched in a scrubbed text.
Every character of a text is marked as original, and what is written over it is not.
-/

import Mathlib.Data.List.Dedup
import OperationsConsole.Redaction.Secrets

namespace OperationsConsole.Redaction

open Library

abbrev Marked := List (Char × Bool)

def original (text : Text) : Marked := text.map fun symbol => (symbol, true)

def inserted (symbol : Char) : Char × Bool := (symbol, false)

/-- A word occurs with original characters only. -/
def Untouched (word : Text) (text : Marked) : Prop :=
  ∃ run : Marked, run <:+: text ∧ run.map Prod.fst = word ∧ ∀ symbol ∈ run, symbol.2 = true

def scrubMarked (interpreter : Interpreter) (text target : Text) : Marked :=
  scrubOn interpreter Prod.fst inserted (original text) target

def errorMarked (interpreter : Interpreter) (text target : Text) : Marked :=
  shownError interpreter Prod.fst inserted (original text) target

section Marks

variable (interpreter : Interpreter)

theorem original_text (text : Text) : (original text).map Prod.fst = text := by
  unfold original
  rw [List.map_map]
  exact List.map_id text

theorem inserted_text (text : Text) : (text.map inserted).map Prod.fst = text.map id := by
  rw [List.map_map]
  rfl

/-- The marks do not change what is written. -/
theorem scrubOn_text (text : Marked) (target : Text) :
    (scrubOn interpreter Prod.fst inserted text target).map Prod.fst =
      scrub interpreter (text.map Prod.fst) target := by
  have replaced : ∀ (word new : Text) (text : Marked),
      (replaceAll Prod.fst word (new.map inserted) text).map Prod.fst =
        replaceAll id word (new.map id) (text.map Prod.fst) := by
    intro word new text
    rw [replaceAll_map Prod.fst Prod.fst id (fun _ => rfl), inserted_text]
  have folded : ∀ (parts : List Text) (text : Marked),
      (parts.foldl (fun text part => replaceAll Prod.fst part (redacted.map inserted) text)
          text).map Prod.fst =
        parts.foldl (fun text part => replaceAll id part (redacted.map id) text)
          (text.map Prod.fst) := by
    intro parts
    induction parts with
    | nil => exact fun text => rfl
    | cons part parts ih =>
        intro text
        rw [List.foldl_cons, List.foldl_cons, ih, replaced]
  unfold scrub scrubOn
  split
  · rfl
  · split
    · exact inserted_text redactedUrl
    · dsimp only
      rw [folded, replaced]

/-- The marks of the symbols do not change the redaction. -/
theorem redactTextOn_text (text : Marked) :
    (redactTextOn interpreter Prod.fst inserted text).map Prod.fst =
      redactText interpreter (text.map Prod.fst) := by
  unfold redactText redactTextOn rewrite
  apply rewriteFrom_map
  intro text
  unfold redactToken
  rw [List.map_id]
  cases urlToken (text.map Prod.fst) with
  | none => rfl
  | some token =>
      simp only [Option.map_some, Match.map, inserted_text]

/-- The marks of the symbols do not change the scrubbing. -/
theorem scrubMarked_text (text target : Text) :
    (scrubMarked interpreter text target).map Prod.fst = scrub interpreter text target := by
  unfold scrubMarked
  rw [scrubOn_text, original_text]

/-- The marks of the symbols do not change the error that is shown. -/
theorem errorMarked_text (text target : Text) :
    (errorMarked interpreter text target).map Prod.fst =
      shownError interpreter id id text target := by
  unfold errorMarked shownError
  by_cases empty : text = []
  · rw [empty]
    rfl
  · have filled : original text ≠ [] := by
      intro none_left
      exact empty (List.map_eq_nil_iff.mp none_left)
    rw [if_neg empty, if_neg filled, redactTextOn_text, scrubOn_text, original_text]
    rfl

end Marks

section Removal

variable (interpreter : Interpreter)

/-- Nothing that is inserted is original. -/
theorem inserted_fresh (text : Text) : ∀ symbol ∈ text.map inserted, ¬ symbol.2 = true := by
  intro symbol member
  obtain ⟨char, _, same⟩ := List.mem_map.mp member
  rw [← same]
  exact Bool.false_ne_true

theorem redacted_filled : redacted.map inserted ≠ [] := by
  decide

/-- A word in a part of another is untouched with it. -/
theorem Untouched.part {word other : Text} {text : Marked} (held : Untouched word text)
    (inside : other <:+: word) : Untouched other text := by
  obtain ⟨run, placed, spelled, marks⟩ := held
  obtain ⟨first, last, whole⟩ := inside
  rw [← whole, List.map_eq_append_iff] at spelled
  obtain ⟨front, back, joined, frontSpelled, backSpelled⟩ := spelled
  rw [List.map_eq_append_iff] at frontSpelled
  obtain ⟨before, middle, again, beforeSpelled, middleSpelled⟩ := frontSpelled
  refine ⟨middle, ?_, middleSpelled, ?_⟩
  · apply List.IsInfix.trans _ placed
    exact ⟨before, back, by rw [joined, again]⟩
  · intro symbol member
    apply marks
    rw [joined, again]
    exact List.mem_append_left _ (List.mem_append_right _ member)

/-- A replacement by the marker leaves no untouched word that was not there. -/
theorem untouched_of_replaced (part word : Text) (text : Marked)
    (held : Untouched word (replaceAll Prod.fst part (redacted.map inserted) text)) :
    Untouched word text := by
  obtain ⟨run, placed, spelled, marks⟩ := held
  exact ⟨run, rewriteFrom_infix (fun symbol => symbol.2 = true) _
    (replaceRule_writes Prod.fst part _ _ redacted_filled (inserted_fresh redacted)) run marks text
    0 0 placed, spelled, marks⟩

/-- A word that is left after the replacements was there before. -/
theorem untouched_of_parts (parts : List Text) (word : Text) (text : Marked)
    (held : Untouched word (parts.foldl (fun text part =>
      replaceAll Prod.fst part (redacted.map inserted) text) text)) : Untouched word text := by
  induction parts generalizing text with
  | nil => exact held
  | cons part parts ih => exact untouched_of_replaced part word text (ih _ held)

/-- After the replacement of its parts a text holds none of them untouched. -/
theorem parts_cleared (parts : List Text) (part : Text) (member : part ∈ parts) (filled : part ≠ [])
    (text : Marked) : ¬ Untouched part (parts.foldl (fun text part =>
      replaceAll Prod.fst part (redacted.map inserted) text) text) := by
  induction parts generalizing text with
  | nil => simp at member
  | cons first parts ih =>
      rw [List.foldl_cons]
      intro held
      rcases List.mem_cons.mp member with same | later
      · obtain ⟨run, placed, spelled, marks⟩ := untouched_of_parts parts part _ held
        rw [← same] at placed
        exact replaceAll_cleared Prod.fst part _ (fun symbol => symbol.2 = true) redacted_filled
          (inserted_fresh redacted) run marks spelled filled text placed
      · exact ih later _ held

/-- The body of a URL in a text keeps its separator. -/
theorem stripTrailing_separator (scheme body : Text) :
    schemeSeparator <:+: stripTrailing (scheme ++ schemeSeparator ++ body) := by
  unfold stripTrailing
  rw [List.reverse_append, List.dropWhile_append]
  have stays : ∀ scheme : Text, ((scheme ++ schemeSeparator).reverse.dropWhile
      fun symbol => trailing.contains symbol) = (scheme ++ schemeSeparator).reverse := by
    intro scheme
    rw [List.reverse_append]
    rfl
  split
  · rw [stays, List.reverse_reverse]
    exact (List.suffix_append scheme schemeSeparator).isInfix
  · rw [List.reverse_append, List.reverse_reverse, List.append_assoc]
    exact (List.prefix_append _ _).isInfix.trans (List.suffix_append scheme _).isInfix

theorem urlunsplit_filled (parts : SplitResult) : urlunsplit parts ≠ [] := by
  unfold urlunsplit
  dsimp only
  split <;> split <;> split <;> simp

/-- A target with a separator is never shown as nothing. -/
theorem shownUrl_filled (target : Text) (separated : schemeSeparator <:+: target) :
    shownUrl interpreter.toUnicode target ≠ [] := by
  have marker : redactedUrl ≠ [] := by decide
  unfold shownUrl
  cases clear : isAmbiguous interpreter.toUnicode target with
  | true =>
      rw [redactUrl_ambiguous _ target clear]
      exact marker
  | false =>
      cases split : partitionAt schemeSeparator target with
      | none => exact absurd separated ((partitionAt_eq_none_iff _ _).mp split)
      | some divided =>
          obtain ⟨parts, accepted⟩ := accepted_of_clear _ target divided.1 divided.2 split clear
          obtain ⟨number, numbered⟩ := accepted.port
          rw [redactUrl_accepted _ target divided.1 divided.2 split clear parts accepted number
            numbered]
          show shownParts _ parts number ≠ []
          unfold shownParts
          dsimp only
          split
          · exact marker
          · exact urlunsplit_filled _

/-- The net over a text leaves no untouched word that was not there. -/
theorem untouched_of_redactText (word : Text) (text : Marked)
    (held : Untouched word (redactTextOn interpreter Prod.fst inserted text)) :
    Untouched word text := by
  obtain ⟨run, placed, spelled, marks⟩ := held
  refine ⟨run, rewriteFrom_infix (fun symbol => symbol.2 = true) _ ?_ run marks text 0 0 placed,
    spelled, marks⟩
  intro text found matched
  unfold redactToken at matched
  rw [Option.map_eq_some_iff] at matched
  obtain ⟨token, read, same⟩ := matched
  unfold urlToken at read
  dsimp only at read
  split at read
  · rw [← same]
    refine ⟨?_, inserted_fresh _⟩
    rw [← Option.some.inj read]
    intro empty
    exact shownUrl_filled interpreter _ (stripTrailing_separator _ _) (List.map_eq_nil_iff.mp empty)
  · simp at read

/-- The scrubbed text holds no part of the target untouched. -/
theorem scrub_cleared (target : Text) (given : target ≠ [])
    (clear : isAmbiguous interpreter.toUnicode target = false) (part : Text)
    (listed : part ∈ sensitiveParts interpreter target) (text : Marked) :
    ¬ Untouched part (scrubOn interpreter Prod.fst inserted text target) := by
  unfold scrubOn
  rw [if_neg given, clear, if_neg Bool.false_ne_true]
  exact parts_cleared _ part listed ((mem_sensitiveParts interpreter target part).mp listed).1 _

/-- The text that is a secret without a part is not changed. -/
theorem scrub_kept (target text : Text) (given : target ≠ [])
    (clear : isAmbiguous interpreter.toUnicode target = false) (whole : ¬ target <:+: text)
    (absent : ∀ part ∈ sensitiveParts interpreter target, ¬ part <:+: text) :
    scrubMarked interpreter text target = original text := by
  have folded : ∀ parts : List Text, (∀ part ∈ parts, ¬ part <:+: text) →
      parts.foldl (fun text part => replaceAll Prod.fst part (redacted.map inserted) text)
        (original text) = original text := by
    intro parts
    induction parts with
    | nil => exact fun _ => rfl
    | cons part parts ih =>
        intro missing
        rw [List.foldl_cons, replaceAll_absent]
        · exact ih fun other member => missing other (List.mem_cons_of_mem _ member)
        · rw [original_text]
          exact missing part List.mem_cons_self
  unfold scrubMarked scrubOn
  rw [if_neg given, clear, if_neg Bool.false_ne_true]
  dsimp only
  rw [replaceAll_absent, folded _ absent]
  rw [original_text]
  exact whole

/-- A target does not occur in its own secrets. -/
theorem target_not_in_secret (target scheme rest secret : Text)
    (split : partitionAt schemeSeparator target = some (scheme, rest))
    (clear : isAmbiguous interpreter.toUnicode target = false)
    (held : Secret interpreter.toUnicode target secret) : ¬ target <:+: secret := by
  have filled := secret_filled _ target secret held
  obtain ⟨parts, accepted⟩ := accepted_of_clear _ target scheme rest split clear
  obtain ⟨_, piece, member, form⟩ := held
  unfold targetPieces at member
  rw [split] at member
  dsimp only at member
  rw [accepted.read] at member
  have short := length_urlPieces _ target accepted.clean parts accepted.read piece member
  have long := List.length_pos_iff.mpr filled
  intro inside
  have bound := inside.length_le
  rcases form with same | same | same
  · rw [same] at bound
    omega
  · have decoded := length_unquote piece
    rw [same] at bound
    omega
  · have colon : ':' ∈ target := by
      rw [partitionAt_text _ _ _ _ split]
      simp [schemeSeparator]
    rw [same] at inside
    exact quote_colon piece (inside.subset colon)

end Removal

section Contract

variable (interpreter : Interpreter) (target : Text)

/-- What is shown of an error holds no secret of the target with original characters only. -/
structure LeavesNoSecret : Prop where
  ambiguous : target ≠ [] → isAmbiguous interpreter.toUnicode target = true →
    ∀ text, scrub interpreter text target = redactedUrl
  scrubbed : isAmbiguous interpreter.toUnicode target = false → ∀ text,
    (scrubMarked interpreter text target).map Prod.fst = scrub interpreter text target ∧
      ∀ secret, Secret interpreter.toUnicode target secret →
        ¬ Untouched secret (scrubMarked interpreter text target)
  read : ∀ now probe status text, probe.target = target →
    (reading interpreter now probe status (some text)).error =
        some ((errorMarked interpreter text target).map Prod.fst) ∧
      ∀ secret, Secret interpreter.toUnicode target secret →
        ¬ Untouched secret (errorMarked interpreter text target)

/-- A secret that holds a part that the hand reads is not left untouched. -/
theorem secret_removed (clear : isAmbiguous interpreter.toUnicode target = false)
    (covered : Covered interpreter.toUnicode target) (secret : Text)
    (held : Secret interpreter.toUnicode target secret) (text : Marked) :
    ¬ Untouched secret (scrubOn interpreter Prod.fst inserted text target) := by
  obtain ⟨piece, listed, part, form, filled, inside⟩ := covered secret held
  have removed : part ∈ sensitiveParts interpreter target :=
    (mem_sensitiveParts interpreter target part).mpr ⟨filled, piece, listed, form⟩
  intro untouched
  exact scrub_cleared interpreter target (secret_filled _ target secret held) clear part removed text
    (untouched.part inside)

/-- A target that is ambiguous or covered leaves no secret. -/
theorem leavesNoSecret_of_covered
    (either : isAmbiguous interpreter.toUnicode target = true ∨
      Covered interpreter.toUnicode target) : LeavesNoSecret interpreter target := by
  have marker : isAmbiguous interpreter.toUnicode target = true → target ≠ [] → ∀ text : Marked,
      scrubOn interpreter Prod.fst inserted text target = redactedUrl.map inserted := by
    intro ambiguous given text
    unfold scrubOn
    rw [if_neg given, if_pos ambiguous]
  have removed : ∀ secret, Secret interpreter.toUnicode target secret → ∀ text : Marked,
      ¬ Untouched secret (scrubOn interpreter Prod.fst inserted text target) := by
    intro secret held text
    cases clear : isAmbiguous interpreter.toUnicode target with
    | true =>
        rw [marker clear (secret_filled _ target secret held) text]
        rintro ⟨run, placed, spelled, marks⟩
        cases run with
        | nil => exact held.1 spelled.symm
        | cons symbol rest =>
            exact inserted_fresh redactedUrl symbol (placed.subset List.mem_cons_self)
              (marks symbol List.mem_cons_self)
    | false =>
        have covered := either.resolve_left (by simp [clear])
        exact secret_removed interpreter target clear covered secret held text
  constructor
  · intro given ambiguous text
    unfold scrub scrubOn
    rw [if_neg given, if_pos ambiguous, List.map_id]
  · intro _ text
    exact ⟨scrubMarked_text interpreter text target,
      fun secret held => removed secret held (original text)⟩
  · intro now probe status text same
    subst same
    constructor
    · rw [errorMarked_text]
      rfl
    · intro secret held untouched
      unfold errorMarked shownError at untouched
      split at untouched
      · rename_i empty
        rw [empty] at untouched
        obtain ⟨run, placed, spelled, _⟩ := untouched
        rw [List.eq_nil_of_infix_nil placed] at spelled
        exact held.1 spelled.symm
      · exact removed secret held (original text)
          (untouched_of_redactText interpreter secret _ untouched)

/-- No secret of a target is left exactly when the target is ambiguous or its secrets are
covered. -/
theorem leavesNoSecret_iff : LeavesNoSecret interpreter target ↔
    isAmbiguous interpreter.toUnicode target = true ∨ Covered interpreter.toUnicode target := by
  constructor
  · intro leaves
    cases clear : isAmbiguous interpreter.toUnicode target with
    | true => exact .inl rfl
    | false =>
        cases split : partitionAt schemeSeparator target with
        | none => exact .inr (covered_of_bare _ target split)
        | some divided =>
            refine .inr fun secret held => ?_
            by_contra uncovered
            have absent : ∀ part ∈ sensitiveParts interpreter target, ¬ part <:+: secret := by
              intro part listed inside
              obtain ⟨filled, piece, read, form⟩ :=
                (mem_sensitiveParts interpreter target part).mp listed
              exact uncovered ⟨piece, read, part, form, filled, inside⟩
            have kept := scrub_kept interpreter target secret
              (secret_filled _ target secret held) clear
              (target_not_in_secret interpreter target divided.1 divided.2 secret split clear held)
              absent
            apply (leaves.scrubbed clear secret).2 secret held
            rw [kept]
            refine ⟨original secret, List.infix_refl _, original_text secret, ?_⟩
            intro symbol member
            obtain ⟨char, _, same⟩ := List.mem_map.mp member
            rw [← same]
  · exact leavesNoSecret_of_covered interpreter target

end Contract

/-- The tables of ASCII, and sets that keep the order in which their members were added last. -/
def asciiInterpreter : Interpreter where
  lower := fun text => text.map Char.toLower
  nfkc := id
  isIPv6 := fun _ => false
  lower_keeps := by
    have letters : ∀ code ≤ 90, 65 ≤ code → (Char.ofNat code).toLower ∉ ['@', '?', '#'] := by
      decide
    intro text symbol member marked
    obtain ⟨char, inside, same⟩ := List.mem_map.mp member
    by_cases upper : 65 ≤ char.toNat ∧ char.toNat ≤ 90
    · have other := letters char.toNat upper.2 upper.1
      rw [Char.ofNat_toNat, same] at other
      exact absurd marked other
    · have kept : char.toLower = char := by
        unfold Char.toLower
        rw [dif_neg]
        exact upper
      rw [← same, kept]
      exact inside
  enumerate := List.dedup
  nodup_enumerate := List.nodup_dedup
  mem_enumerate := fun _ _ => List.mem_dedup

/-- A query before the first separator stays in a text. -/
theorem leavesNoSecret_fails :
    ¬ LeavesNoSecret asciiInterpreter "http:h?k=pw:///p".toList := by
  intro leaves
  let target := "http:h?k=pw:///p".toList
  let secret := "k=pw:///p".toList
  have clear : isAmbiguous asciiInterpreter.toUnicode target = false := by decide +kernel
  have held : Secret asciiInterpreter.toUnicode target secret :=
    ⟨by decide, secret, by decide +kernel, .inl rfl⟩
  have absent : ∀ piece ∈ handPieces (restOf target), ∀ part ∈ variants piece, part = [] := by
    decide +kernel
  have kept := scrub_kept asciiInterpreter target secret (by decide) clear (by decide) (by
    intro part listed
    obtain ⟨filled, piece, read, form⟩ := (mem_sensitiveParts asciiInterpreter target part).mp listed
    exact absurd (absent piece read part form) filled)
  apply (leaves.scrubbed clear secret).2 secret held
  rw [kept]
  exact ⟨original secret, List.infix_refl _, original_text secret, by decide⟩

end OperationsConsole.Redaction
