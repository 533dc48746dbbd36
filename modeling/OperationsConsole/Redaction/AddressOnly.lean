/-
This file proves that a redacted target shows its scheme, host, port, and path only.
The readings of `urlsplit` and of the hand are compared at the first scheme separator.
-/

import OperationsConsole.Redaction.UrlRedaction

namespace OperationsConsole.Redaction

open Library

variable (unicode : Unicode)

/-- A clean target holds no whitespace and no control character. -/
def Clean (target : Text) : Prop :=
  ∀ symbol ∈ target, isSpace symbol = false ∧ isControl symbol = false

/-- There is nothing to strip from a clean text. -/
theorem strippedUrl_clean (target : Text) (clean : Clean target) : strippedUrl target = target := by
  have above : ∀ symbol ∈ target, 32 < symbol.toNat := by
    intro symbol member
    have codes := clean symbol member
    simp only [isSpace, isControl, Bool.or_eq_false_iff, Bool.and_eq_false_iff,
      decide_eq_false_iff_not, beq_eq_false_iff_ne] at codes
    omega
  unfold strippedUrl
  have kept : (target.dropWhile fun symbol => decide (symbol.toNat ≤ 32)) = target := by
    cases target with
    | nil => rfl
    | cons symbol rest =>
        rw [List.dropWhile_cons_of_neg]
        have bound := above symbol List.mem_cons_self
        simpa using bound
  rw [kept, List.filter_eq_self]
  intro symbol member
  have bound := above symbol member
  rw [decide_eq_true_eq]
  intro dropped
  simp only [List.mem_cons, List.not_mem_nil, or_false] at dropped
  rcases dropped with same | same | same <;>
    · rw [same] at bound
      exact absurd bound (by decide)

/-- A clean text splits into its scheme, its location and its rest. -/
theorem urlsplit_ok (target : Text) (clean : Clean target) (parts : SplitResult)
    (read : urlsplit unicode target = .ok parts) :
    parts = splitRest (splitScheme unicode target).1
      (splitNetloc (splitScheme unicode target).2).1
      (splitNetloc (splitScheme unicode target).2).2 := by
  unfold urlsplit at read
  rw [strippedUrl_clean target clean] at read
  dsimp only at read
  cases brackets : checkBrackets unicode (splitNetloc (splitScheme unicode target).2).1 with
  | error failure =>
      rw [brackets] at read
      simp [bind, Except.bind] at read
  | ok _ =>
      cases normal : checkNetloc unicode (splitNetloc (splitScheme unicode target).2).1 with
      | error failure =>
          rw [brackets, normal] at read
          simp [bind, Except.bind] at read
      | ok _ =>
          rw [brackets, normal] at read
          exact (Except.ok.inj read).symm

/-- A target that is not ambiguous is read by `urlsplit` as by hand. -/
structure Accepted (target rest : Text) (parts : SplitResult) : Prop where
  clean : Clean target
  read : urlsplit unicode target = .ok parts
  port : ∃ number, parts.port = .ok number
  authority : parts.netloc = before isDelimiter rest
  single : parts.netloc.count '@' ≤ 1
  shown : '@' ∉ parts.path ∧ '@' ∉ parts.query ∧ '@' ∉ parts.fragment

/-- A target that is not ambiguous is clean. -/
theorem clean_of_clear (target : Text) (clear : isAmbiguous unicode target = false) :
    Clean target := by
  unfold isAmbiguous at clear
  split at clear
  · simp at clear
  · rename_i none_found
    intro symbol member
    simp only [List.any_eq_true, not_exists, not_and, Bool.not_eq_true, Bool.or_eq_false_iff]
      at none_found
    exact none_found symbol member

/-- A target that is not ambiguous is accepted. -/
theorem accepted_of_clear (target scheme rest : Text)
    (split : partitionAt schemeSeparator target = some (scheme, rest))
    (clear : isAmbiguous unicode target = false) :
    ∃ parts, Accepted unicode target rest parts := by
  have clean := clean_of_clear unicode target clear
  unfold isAmbiguous at clear
  split at clear
  · simp at clear
  · rw [split] at clear
    dsimp only at clear
    cases read : urlsplit unicode target with
    | error failure =>
        rw [read] at clear
        simp [bind, Except.bind] at clear
    | ok parts =>
        cases numbered : parts.port with
        | error failure =>
            rw [read] at clear
            simp [bind, Except.bind, numbered] at clear
        | ok number =>
            rw [read] at clear
            simp only [bind, Except.bind, numbered, pure, Except.pure, Bool.or_eq_false_iff,
              decide_eq_false_iff_not, not_not, List.contains_eq_mem, List.mem_append,
              not_or] at clear
            exact ⟨parts, clean, read, ⟨number, numbered⟩, clear.1.1.1.symm,
              by omega, clear.2.1.1, clear.2.1.2, clear.2.2⟩

/-- The address of a reading, as it is shown. -/
def shownParts (parts : SplitResult) (port : Option Nat) : Text :=
  let host := shownHost (parts.hostname unicode)
  let netloc := match port with
    | none => host
    | some number => host ++ [':'] ++ Nat.toDigits 10 number
  if host = [] then redactedUrl else urlunsplit ⟨parts.scheme, netloc, parts.path, [], []⟩

/-- An accepted target is shown as its parts. -/
theorem redactUrl_accepted (target scheme rest : Text)
    (split : partitionAt schemeSeparator target = some (scheme, rest))
    (clear : isAmbiguous unicode target = false) (parts : SplitResult)
    (accepted : Accepted unicode target rest parts) (number : Option Nat)
    (numbered : parts.port = .ok number) :
    redactUrl unicode target = .ok (shownParts unicode parts number) := by
  unfold redactUrl shownParts
  rw [clear, split, accepted.read]
  simp only [Bool.false_eq_true, if_false, bind, Except.bind, numbered, tryCatch, tryCatchThe,
    MonadExceptOf.tryCatch, Except.tryCatch]
  by_cases empty : shownHost (parts.hostname unicode) = []
  · rw [if_pos empty, if_pos empty]
    rfl
  · rw [if_neg empty, if_neg empty]
    rfl

/-- A text holds none of the characters that only a secret part brings. -/
def Unmarked (text : Text) : Prop := ∀ symbol ∈ text, symbol ∉ ['@', '?', '#']

/-- A text is unmarked exactly if its parts are. -/
theorem unmarked_append (first second : Text) :
    Unmarked (first ++ second) ↔ Unmarked first ∧ Unmarked second := by
  unfold Unmarked
  simp only [List.mem_append]
  constructor
  · intro both
    exact ⟨fun symbol member => both symbol (.inl member),
      fun symbol member => both symbol (.inr member)⟩
  · rintro ⟨left, right⟩ symbol (member | member)
    · exact left symbol member
    · exact right symbol member

theorem Unmarked.subset {first second : Text} (clear : Unmarked second) (inside : first ⊆ second) :
    Unmarked first := fun symbol member => clear symbol (inside member)

/-- The small letters of an unmarked text are unmarked. -/
theorem unmarked_lower (text : Text) (clear : Unmarked text) : Unmarked (unicode.lower text) :=
  fun symbol member marked =>
    clear symbol (unicode.lower_keeps text symbol member marked) marked

/-- A written number is unmarked. -/
theorem unmarked_digits (number : Nat) : Unmarked (Nat.toDigits 10 number) := by
  intro symbol member marked
  have digit := Nat.isDigit_of_mem_toDigits (by omega) (by omega) member
  have others : ∀ symbol ∈ ['@', '?', '#'], ¬ symbol.isDigit = true := by
    simp [Char.isDigit]
  exact others symbol marked digit

/-- The location that follows the last at-sign of an authority is unmarked. -/
theorem unmarked_info (rest : Text) :
    Unmarked (afterLast (· == '@') (before isDelimiter rest)) := by
  intro symbol member marked
  have sign := afterLast_free (· == '@') _ symbol member
  have delimiter := before_free isDelimiter rest symbol (afterLast_subset _ _ member)
  simp only [List.mem_cons, List.not_mem_nil, or_false] at marked
  rcases marked with same | same | same <;>
    · rw [same] at sign delimiter
      revert sign delimiter
      decide

/-- The host stands after the last sign of the credentials. -/
theorem hostinfo_subset (parts : SplitResult) :
    parts.hostinfo.1 ⊆ afterLast (· == '@') parts.netloc := by
  unfold SplitResult.hostinfo
  dsimp only
  split
  · exact List.Subset.trans (before_subset _ _) (afterFirst_subset _ _)
  · exact before_subset _ _

/-- A shown host is unmarked. -/
theorem unmarked_hostname (parts : SplitResult) (rest : Text)
    (authority : parts.netloc = before isDelimiter rest) :
    Unmarked (shownHost (parts.hostname unicode)) := by
  have info := unmarked_info rest
  rw [← authority] at info
  have host : Unmarked parts.hostinfo.1 := info.subset (hostinfo_subset parts)
  have named : Unmarked (parts.hostname unicode) := by
    unfold SplitResult.hostname
    dsimp only
    split
    · simp [Unmarked]
    · rw [unmarked_append]
      exact ⟨unmarked_lower unicode _ (host.subset (before_subset _ _)),
        host.subset (fromFirst_subset _ _)⟩
  have brackets : Unmarked ['['] ∧ Unmarked [']'] := by
    simp [Unmarked]
  unfold shownHost
  split
  · rw [unmarked_append, unmarked_append]
    exact ⟨⟨brackets.1, named⟩, brackets.2⟩
  · exact named

/-- A scheme holds letters, digits, and three signs only. -/
theorem unmarked_scheme (url : Text) : Unmarked (splitScheme unicode url).1 := by
  unfold splitScheme
  dsimp only
  split
  · rename_i named
    apply unmarked_lower
    intro symbol member marked
    simp only [isScheme, Bool.and_eq_true, List.all_eq_true] at named
    have allowed := named.2.2 symbol member
    have none : ['@', '?', '#'].all fun symbol => !isSchemeChar symbol := by
      decide
    have refused := List.all_eq_true.mp none symbol marked
    rw [allowed] at refused
    exact absurd refused (by decide)
  · simp [Unmarked]

/-- A path holds no question mark and no hash. -/
theorem unmarked_path (scheme netloc url : Text)
    (shown : '@' ∉ (splitRest scheme netloc url).path) :
    Unmarked (splitRest scheme netloc url).path := by
  intro symbol member marked
  have query := before_free (· == '?') _ symbol member
  have fragment := before_free (· == '#') _ symbol (before_subset (· == '?') _ member)
  simp only [List.mem_cons, List.not_mem_nil, or_false] at marked
  rcases marked with same | same | same
  · rw [same] at member
    exact shown member
  · simp [same] at query
  · simp [same] at fragment

/-- A URL of unmarked parts is unmarked. -/
theorem unmarked_urlunsplit (scheme netloc path : Text) (schemed : Unmarked scheme)
    (located : Unmarked netloc) (pathed : Unmarked path) :
    Unmarked (urlunsplit ⟨scheme, netloc, path, [], []⟩) := by
  have signs : Unmarked ['/', '/'] ∧ Unmarked [':'] ∧ Unmarked ['/'] := by
    simp [Unmarked]
  have rooted : Unmarked (if path ≠ [] ∧ path.head? ≠ some '/' then '/' :: path else path) := by
    split
    · exact (unmarked_append ['/'] path).mpr ⟨signs.2.2, pathed⟩
    · exact pathed
  unfold urlunsplit
  dsimp only
  rw [if_pos rfl, if_pos rfl]
  split
  · simp only [unmarked_append]
    exact ⟨⟨signs.1, located⟩, rooted⟩
  · simp only [unmarked_append]
    exact ⟨⟨schemed, signs.2.1⟩, ⟨signs.1, located⟩, rooted⟩

/-- What is shown of an accepted target is unmarked, or it is the fixed text. -/
theorem unmarked_shown (target rest : Text) (parts : SplitResult)
    (accepted : Accepted unicode target rest parts) (number : Option Nat) :
    shownParts unicode parts number = redactedUrl ∨
      Unmarked (shownParts unicode parts number) := by
  have host := unmarked_hostname unicode parts rest accepted.authority
  have built := urlsplit_ok unicode target accepted.clean parts accepted.read
  have scheme : Unmarked parts.scheme := by
    rw [built]
    exact unmarked_scheme unicode target
  have path : Unmarked parts.path := by
    have sign := accepted.shown.1
    rw [built] at sign ⊢
    exact unmarked_path _ _ _ sign
  have colon : Unmarked [':'] := by
    simp [Unmarked]
  unfold shownParts
  dsimp only
  split
  · exact .inl rfl
  · refine .inr (unmarked_urlunsplit _ _ _ scheme ?_ path)
    cases number with
    | none => exact host
    | some number =>
        simp only [unmarked_append]
        exact ⟨⟨host, colon⟩, unmarked_digits number⟩

/-- A target without a separator loses what follows its first question mark or hash. -/
theorem unmarked_bare (target : Text) :
    Unmarked (afterLast (· == '@') (before (· == '#') (before (· == '?') target))) := by
  intro symbol member marked
  have sign := afterLast_free (· == '@') _ symbol member
  have inside := afterLast_subset (· == '@') _ member
  have fragment := before_free (· == '#') _ symbol inside
  have query := before_free (· == '?') _ symbol (before_subset (· == '#') _ inside)
  simp only [List.mem_cons, List.not_mem_nil, or_false] at marked
  rcases marked with same | same | same
  · simp [same] at sign
  · simp [same] at query
  · simp [same] at fragment

/-- Every target is shown as the marker or without a mark. -/
theorem redactUrl_unmarked (target : Text) : ∃ shown, redactUrl unicode target = .ok shown ∧
    (shown = redactedUrl ∨ Unmarked shown) := by
  cases clear : isAmbiguous unicode target with
  | true =>
      unfold redactUrl
      rw [clear]
      exact ⟨redactedUrl, rfl, .inl rfl⟩
  | false =>
      cases split : partitionAt schemeSeparator target with
      | none =>
          unfold redactUrl
          rw [clear, split]
          exact ⟨_, rfl, .inr (unmarked_bare target)⟩
      | some parts =>
          obtain ⟨scheme, rest⟩ := parts
          obtain ⟨parts, accepted⟩ := accepted_of_clear unicode target scheme rest split clear
          obtain ⟨number, numbered⟩ := accepted.port
          exact ⟨_, redactUrl_accepted unicode target scheme rest split clear parts accepted number
            numbered, unmarked_shown unicode target rest parts accepted number⟩

end OperationsConsole.Redaction
