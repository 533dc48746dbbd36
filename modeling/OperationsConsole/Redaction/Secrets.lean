/-
This file names the secrets of a target, as `urlsplit` reads them and as the hand splits them.
The two agree when the target has no question mark and no hash before its first separator.
-/

import OperationsConsole.Redaction.Scrub
import OperationsConsole.Redaction.TwoReadings

namespace OperationsConsole.Redaction

open Library

/-- The secret pieces of a user part, a query, and a fragment. -/
def piecesOf (userinfo query fragment : Text) : List Text :=
  [userinfo, before (· == ':') userinfo, afterFirst (· == ':') userinfo, query, fragment] ++
    (query.splitOn '&').map (afterFirst (· == '='))

/-- The hand splits what follows the separator. -/
def handPieces (rest : Text) : List Text :=
  piecesOf (beforeLast (· == '@') (before isDelimiter rest))
    (afterFirst (· == '?') (before (· == '#') rest)) (afterFirst (· == '#') rest)

/-- A target without a separator follows it as a whole. -/
def restOf (target : Text) : Text := (partitionAt schemeSeparator target).elim target Prod.snd

def urlPieces (parts : SplitResult) : List Text :=
  piecesOf parts.userinfo parts.query parts.fragment

/-- The pieces of a target are those of `urlsplit` when it has a separator, or those of the hand. -/
def targetPieces (unicode : Unicode) (target : Text) : List Text :=
  match partitionAt schemeSeparator target with
  | none => handPieces target
  | some _ =>
      match urlsplit unicode target with
      | .ok parts => urlPieces parts
      | .error _ => []

/-- A secret is a piece that is not empty, as it is, decoded, or encoded. -/
def Secret (unicode : Unicode) (target secret : Text) : Prop :=
  secret ≠ [] ∧ ∃ piece ∈ targetPieces unicode target,
    secret = piece ∨ secret = unquote piece ∨ secret = quote piece

/-- Every secret of a target holds a text that the hand reads behind its first separator. -/
def Covered (unicode : Unicode) (target : Text) : Prop :=
  ∀ secret, Secret unicode target secret →
    ∃ piece ∈ handPieces (restOf target), ∃ part ∈ variants piece, part ≠ [] ∧ part <:+: secret

section Pieces

/-- The pieces that `scrub` removes are those of the hand. -/
theorem sensitivePieces_eq (target : Text) : sensitivePieces target = handPieces (restOf target) := by
  have authority : ∀ rest : Text,
      before (· == '/') (before (· == '?') (before (· == '#') rest)) = before isDelimiter rest := by
    intro rest
    rw [before_before, before_before]
    unfold isDelimiter
    congr 1
    funext symbol
    cases symbol == '/' <;> cases symbol == '?' <;> cases symbol == '#' <;> rfl
  have userinfo : ∀ authority : Text,
      (if authority.contains '@' then beforeLast (· == '@') authority else []) =
        beforeLast (· == '@') authority := by
    intro authority
    split
    · rfl
    · rename_i absent
      have free : ∀ symbol ∈ authority.reverse, (symbol == '@') = false := by
        intro symbol member
        rw [beq_eq_false_iff_ne]
        intro same
        apply absent
        rw [← same]
        simpa using member
      rw [beforeLast, afterFirst, fromFirst_of_free _ _ free]
      rfl
  unfold sensitivePieces handPieces piecesOf restOf
  dsimp only
  rw [authority, userinfo]

theorem mem_sensitiveParts (interpreter : Interpreter) (target part : Text) :
    part ∈ sensitiveParts interpreter target ↔
      part ≠ [] ∧ ∃ piece ∈ handPieces (restOf target), part ∈ variants piece := by
  unfold sensitiveParts
  rw [List.mem_mergeSort, List.mem_filter, interpreter.mem_enumerate, sensitivePieces_eq,
    List.mem_flatMap, decide_eq_true_eq, and_comm]

/-- The part after a stop is shorter than the text. -/
theorem length_afterFirst (stop : Char → Bool) (text : Text) :
    (afterFirst stop text).length ≤ text.length - 1 := by
  unfold afterFirst fromFirst
  rw [List.length_tail]
  have bound := (List.dropWhile_suffix (fun symbol => !stop symbol) (l := text)).length_le
  omega

theorem length_before (stop : Char → Bool) (text : Text) :
    (before stop text).length ≤ text.length :=
  (List.takeWhile_prefix _).length_le

theorem length_splitOn (text part : Text) (member : part ∈ text.splitOn '&') :
    part.length ≤ text.length := by
  rw [List.splitOn_eq_splitOnP] at member
  induction text generalizing part with
  | nil =>
      rw [List.splitOnP_nil, List.mem_singleton] at member
      rw [member]
  | cons symbol rest ih =>
      rw [List.splitOnP_cons_eq_if_modifyHead] at member
      rw [List.length_cons]
      split at member
      · rcases List.mem_cons.mp member with empty | later
        · rw [empty]
          exact Nat.zero_le _
        · exact Nat.le_succ_of_le (ih part later)
      · cases parts : rest.splitOnP (· == '&') with
        | nil => exact absurd parts (List.splitOnP_ne_nil _ _)
        | cons first others =>
            rw [parts, List.modifyHead_cons] at member
            rw [parts] at ih
            rcases List.mem_cons.mp member with own | later
            · rw [own, List.length_cons]
              exact Nat.succ_le_succ (ih first List.mem_cons_self)
            · exact Nat.le_succ_of_le (ih part (List.mem_cons_of_mem _ later))

/-- The pieces are no longer than the parts that they come from. -/
theorem length_piecesOf (userinfo query fragment piece : Text) (bound : ℕ)
    (users : userinfo.length ≤ bound) (queries : query.length ≤ bound)
    (fragments : fragment.length ≤ bound) (member : piece ∈ piecesOf userinfo query fragment) :
    piece.length ≤ bound := by
  have user := length_before (· == ':') userinfo
  have password := length_afterFirst (· == ':') userinfo
  unfold piecesOf at member
  rw [List.mem_append] at member
  rcases member with fixed | value
  · simp only [List.mem_cons, List.not_mem_nil, or_false] at fixed
    rcases fixed with same | same | same | same | same <;>
      · rw [same]
        omega
  · obtain ⟨pair, listed, same⟩ := List.mem_map.mp value
    have whole := length_splitOn query pair listed
    have part := length_afterFirst (· == '=') pair
    rw [← same]
    omega

/-- The pieces that `urlsplit` reads are shorter than a clean target. -/
theorem length_urlPieces (unicode : Unicode) (target : Text) (clean : Clean target)
    (parts : SplitResult) (read : urlsplit unicode target = .ok parts) (piece : Text)
    (member : piece ∈ urlPieces parts) : piece.length ≤ target.length - 1 := by
  have built := urlsplit_ok unicode target clean parts read
  have schemed : (splitScheme unicode target).2.length ≤ target.length := by
    unfold splitScheme
    dsimp only
    split
    · exact (length_afterFirst _ _).trans (Nat.sub_le _ _)
    · exact Nat.le_refl _
  have located : (splitNetloc (splitScheme unicode target).2).1.length ≤ target.length ∧
      (splitNetloc (splitScheme unicode target).2).2.length ≤ target.length := by
    unfold splitNetloc
    split
    · have dropped := List.length_drop (i := 2) (l := (splitScheme unicode target).2)
      have first := length_before isDelimiter ((splitScheme unicode target).2.drop 2)
      have second := (List.dropWhile_suffix (fun symbol => !isDelimiter symbol)
        (l := (splitScheme unicode target).2.drop 2)).length_le
      dsimp only
      unfold fromFirst
      omega
    · exact ⟨Nat.zero_le _, schemed⟩
  have query := length_before (· == '#') (splitNetloc (splitScheme unicode target).2).2
  have queried := length_afterFirst (· == '?')
    (before (· == '#') (splitNetloc (splitScheme unicode target).2).2)
  have fragment := length_afterFirst (· == '#') (splitNetloc (splitScheme unicode target).2).2
  have user := length_afterFirst (· == '@')
    (splitNetloc (splitScheme unicode target).2).1.reverse
  rw [List.length_reverse] at user
  unfold urlPieces at member
  apply length_piecesOf _ _ _ piece (target.length - 1) _ _ _ member
  · rw [built]
    show ((afterFirst (· == '@') _).reverse).length ≤ _
    rw [List.length_reverse]
    show (afterFirst (· == '@') (splitNetloc (splitScheme unicode target).2).1.reverse).length ≤ _
    omega
  · rw [built]
    show (afterFirst (· == '?') _).length ≤ _
    omega
  · rw [built]
    show (afterFirst (· == '#') _).length ≤ _
    omega

/-- A target with a secret is not empty. -/
theorem secret_filled (unicode : Unicode) (target secret : Text)
    (held : Secret unicode target secret) : target ≠ [] := by
  intro empty
  obtain ⟨filled, piece, member, form⟩ := held
  rw [empty] at member
  have none_left : piece = [] := by
    have pieces : targetPieces unicode [] = [[], [], [], [], [], []] := by
      unfold targetPieces handPieces piecesOf
      rfl
    rw [pieces] at member
    simpa using member
  rw [none_left] at form
  rcases form with same | same | same
  · exact filled same
  · exact filled same
  · exact filled same

end Pieces

section Agreement

theorem mem_variants_self (piece secret : Text)
    (form : secret = piece ∨ secret = unquote piece ∨ secret = quote piece) :
    secret ∈ variants piece := by
  unfold variants
  rcases form with same | same | same <;> simp [same]

/-- A target without a separator is covered. -/
theorem covered_of_bare (unicode : Unicode) (target : Text)
    (bare : partitionAt schemeSeparator target = none) : Covered unicode target := by
  rintro secret ⟨filled, piece, member, form⟩
  have rest : restOf target = target := by
    unfold restOf
    rw [bare]
    rfl
  unfold targetPieces at member
  rw [bare] at member
  rw [rest]
  exact ⟨piece, member, secret, mem_variants_self piece secret form, filled, List.infix_refl _⟩

end Agreement

end OperationsConsole.Redaction
