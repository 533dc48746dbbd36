/-
This file compares what is shown of two texts that differ in the secret parts of their URLs.
The marks that trail a URL are not part of it, and they are shown.
-/

import OperationsConsole.Redaction.ScrubbedSecrets

namespace OperationsConsole.Redaction

open Library

/-- A text is made of the URLs that are found in it and of the symbols around them. -/
inductive Piece where
  | plain (symbol : Char)
  | url (token : Text)
  deriving DecidableEq

/-- The URLs are found from left to right, and the next one is sought after the last. -/
def piecesFrom : ℕ → Text → List Piece
  | _, [] => []
  | skipped + 1, _ :: rest => piecesFrom skipped rest
  | 0, symbol :: rest =>
      match urlToken (symbol :: rest) with
      | none => .plain symbol :: piecesFrom 0 rest
      | some token => .url token :: piecesFrom (token.length - 1) rest

def pieces (text : Text) : List Piece := piecesFrom 0 text

namespace Piece

/-- A URL is shown redacted, with the marks that trail it. -/
def shown (unicode : Unicode) : Piece → Text
  | plain symbol => [symbol]
  | url token => shownUrl unicode (stripTrailing token) ++ token.drop (stripTrailing token).length

/-- Two pieces are one symbol, or two URLs that are alike. -/
inductive Alike (alike : Text → Text → Prop) : Piece → Piece → Prop where
  | plain (symbol : Char) : Alike alike (.plain symbol) (.plain symbol)
  | url (first second : Text) (same : alike first second) : Alike alike (.url first) (.url second)

end Piece

/-- Two URLs differ in the secret parts of their splits only, and both are ambiguous or none is. -/
structure SameAddressParts (unicode : Unicode) (first second : Text) : Prop where
  split : ∃ a b, handSplit first = some a ∧ handSplit second = some b ∧ a.scheme = b.scheme ∧
    a.host = b.host ∧ a.path = b.path
  ambiguous : isAmbiguous unicode first = isAmbiguous unicode second

/-- Two tokens are trailed by the same marks, and without these they differ in secret parts only. -/
structure SameBodies (unicode : Unicode) (first second : Text) : Prop where
  body : SameAddressParts unicode (stripTrailing first) (stripTrailing second)
  trail : first.drop (stripTrailing first).length = second.drop (stripTrailing second).length

/-- Texts whose URLs are alike are shown as one text. -/
def HidesSecrets (interpreter : Interpreter) (alike : Text → Text → Prop) : Prop :=
  ∀ first second, List.Forall₂ (Piece.Alike alike) (pieces first) (pieces second) →
    redactText interpreter first = redactText interpreter second

section Tokens

variable (text token : Text) (found : urlToken text = some token)

include found

/-- A token has a scheme, a separator, and a body. -/
theorem urlToken_cases : ∃ scheme body, token = scheme ++ schemeSeparator ++ body ∧
    token <+: text := by
  unfold urlToken at found
  dsimp only at found
  split at found
  · rename_i shape
    rw [Bool.and_eq_true, Bool.and_eq_true, decide_eq_true_eq, decide_eq_true_eq] at shape
    obtain ⟨rest, separated⟩ := shape.1.2
    refine ⟨_, _, (Option.some.inj found).symm, ?_⟩
    rw [← Option.some.inj found, List.append_assoc]
    conv_rhs => rw [← before_append_fromFirst (fun symbol => !isSchemeChar symbol) text]
    rw [List.prefix_append_right_inj, ← separated, List.drop_left, List.prefix_append_right_inj]
    exact List.takeWhile_prefix _
  · simp at found

/-- The body of a token is a part at its start, and it is not empty. -/
theorem stripTrailing_token : stripTrailing token <+: token ∧ stripTrailing token ≠ [] := by
  obtain ⟨scheme, body, whole, _⟩ := urlToken_cases text token found
  constructor
  · unfold stripTrailing
    rw [← List.reverse_suffix, List.reverse_reverse]
    exact List.dropWhile_suffix _
  · intro empty
    have separated := stripTrailing_separator scheme body
    rw [← whole, empty] at separated
    exact absurd (List.eq_nil_of_infix_nil separated) (by decide)

end Tokens

section Redacted

variable (interpreter : Interpreter)

/-- A text that is redacted from a position in a token on shows the trailing marks and the rest. -/
theorem redactFrom_pieces (text : Text) (cut kept : ℕ) :
    rewriteFrom (redactToken interpreter id id) cut kept text =
      (text.drop cut).take kept ++
        (piecesFrom (cut + kept) text).flatMap (Piece.shown interpreter.toUnicode) := by
  induction text generalizing cut kept with
  | nil => cases cut <;> cases kept <;> simp [rewriteFrom, piecesFrom]
  | cons symbol rest ih =>
      cases cut with
      | succ cut =>
          rw [Nat.succ_add]
          exact ih cut kept
      | zero =>
          cases kept with
          | succ kept =>
              have later := ih 0 kept
              rw [Nat.zero_add] at later ⊢
              exact congrArg (symbol :: ·) later
          | zero =>
              have matched : redactToken interpreter id id (symbol :: rest) =
                  (urlToken (symbol :: rest)).map fun token =>
                    ⟨shownUrl interpreter.toUnicode (stripTrailing token),
                      (stripTrailing token).length,
                      token.length - (stripTrailing token).length⟩ := by
                unfold redactToken
                rw [List.map_id]
                simp only [List.map_id]
              rw [Nat.zero_add]
              unfold rewriteFrom piecesFrom
              rw [matched]
              cases found : urlToken (symbol :: rest) with
              | none => exact congrArg (symbol :: ·) (ih 0 0)
              | some token =>
                  obtain ⟨scheme, body, whole, start⟩ := urlToken_cases _ token found
                  obtain ⟨inside, filled⟩ := stripTrailing_token _ token found
                  have positive := List.length_pos_of_ne_nil filled
                  have bound := inside.length_le
                  have skipped : (stripTrailing token).length - 1 +
                      (token.length - (stripTrailing token).length) = token.length - 1 := by
                    omega
                  have trail : (rest.drop ((stripTrailing token).length - 1)).take
                      (token.length - (stripTrailing token).length) =
                        token.drop (stripTrailing token).length := by
                    obtain ⟨tail, rejoined⟩ := start
                    have dropped : rest.drop ((stripTrailing token).length - 1) =
                        (symbol :: rest).drop (stripTrailing token).length := by
                      obtain ⟨shorter, length⟩ := Nat.exists_eq_succ_of_ne_zero positive.ne'
                      rw [length]
                      rfl
                    rw [dropped, ← rejoined, List.drop_append_of_le_length bound,
                      List.take_left' (by rw [List.length_drop])]
                  rw [Option.map_some]
                  dsimp only
                  rw [ih, skipped, trail, List.take_zero, List.nil_append, List.flatMap_cons]
                  exact (List.append_assoc _ _ _).symm

/-- A redacted text is its pieces as they are shown. -/
theorem redactText_pieces (text : Text) : redactText interpreter text =
    (pieces text).flatMap (Piece.shown interpreter.toUnicode) := by
  have whole := redactFrom_pieces interpreter text 0 0
  rw [List.take_zero, List.nil_append] at whole
  exact whole

/-- Two URLs that differ in secret parts only are shown alike. -/
theorem shownUrl_same (first second : Text)
    (same : SameAddressParts interpreter.toUnicode first second) :
    shownUrl interpreter.toUnicode first = shownUrl interpreter.toUnicode second := by
  have redacted : redactUrl interpreter.toUnicode first =
      redactUrl interpreter.toUnicode second := by
    obtain ⟨a, b, one, other, scheme, host, path⟩ := same.split
    cases firstAmbiguous : isAmbiguous interpreter.toUnicode first with
    | true =>
        have secondAmbiguous := same.ambiguous.symm.trans firstAmbiguous
        rw [redactUrl_ambiguous _ first firstAmbiguous,
          redactUrl_ambiguous _ second secondAmbiguous]
    | false =>
        have secondClear := same.ambiguous.symm.trans firstAmbiguous
        exact redactUrl_same _ first second a b one other firstAmbiguous secondClear scheme host
          path
  unfold shownUrl
  rw [redacted]

theorem shown_alike (first second : Piece)
    (alike : first.Alike (SameBodies interpreter.toUnicode) second) :
    first.shown interpreter.toUnicode = second.shown interpreter.toUnicode := by
  cases alike with
  | plain symbol => rfl
  | url first second same =>
      change shownUrl _ (stripTrailing first) ++ _ = shownUrl _ (stripTrailing second) ++ _
      rw [shownUrl_same interpreter _ _ same.body, same.trail]

theorem shown_pieces (first second : List Piece)
    (alike : List.Forall₂ (Piece.Alike (SameBodies interpreter.toUnicode)) first second) :
    first.flatMap (Piece.shown interpreter.toUnicode) =
      second.flatMap (Piece.shown interpreter.toUnicode) := by
  induction alike with
  | nil => rfl
  | cons same _ ih =>
      rw [List.flatMap_cons, List.flatMap_cons, shown_alike interpreter _ _ same, ih]

/-- No secret of a URL without its trailing marks has an effect on what is shown of a text. -/
theorem redactText_hides : HidesSecrets interpreter (SameBodies interpreter.toUnicode) := by
  intro first second alike
  rw [redactText_pieces, redactText_pieces]
  exact shown_pieces interpreter _ _ alike

end Redacted

/-- Two passwords and two tickets are shown as one text. -/
theorem redactText_hides_credentials :
    redactText asciiInterpreter "to http://u:p@h/?t=a.".toList =
      redactText asciiInterpreter "to http://v:q@h/?t=b.".toList := by
  apply redactText_hides
  have first : pieces "to http://u:p@h/?t=a.".toList =
      [.plain 't', .plain 'o', .plain ' ', .url "http://u:p@h/?t=a.".toList] := by
    decide +kernel
  have second : pieces "to http://v:q@h/?t=b.".toList =
      [.plain 't', .plain 'o', .plain ' ', .url "http://v:q@h/?t=b.".toList] := by
    decide +kernel
  rw [first, second]
  refine .cons (.plain _) (.cons (.plain _) (.cons (.plain _) (.cons (.url _ _ ⟨?_, ?_⟩) .nil)))
  · exact ⟨⟨_, _, rfl, rfl, by decide +kernel, by decide +kernel, by decide +kernel⟩,
      by decide +kernel⟩
  · decide +kernel

/-- The mark that ends a secret is shown. -/
theorem redactText_shows_trail :
    ¬ HidesSecrets asciiInterpreter (SameAddressParts asciiInterpreter.toUnicode) := by
  intro hides
  have same := hides "http://h/?t=a!".toList "http://h/?t=a".toList (by
    have first : pieces "http://h/?t=a!".toList = [.url "http://h/?t=a!".toList] := by
      decide +kernel
    have second : pieces "http://h/?t=a".toList = [.url "http://h/?t=a".toList] := by
      decide +kernel
    rw [first, second]
    refine .cons (.url _ _ ⟨⟨_, _, rfl, rfl, ?_, ?_, ?_⟩, ?_⟩) .nil <;> decide +kernel)
  exact absurd same (by decide +kernel)

end OperationsConsole.Redaction
