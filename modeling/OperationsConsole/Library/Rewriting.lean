/-
This file studies a rewriting of a text from left to right, as in the replacement of a word.
Symbols that a rewriting did not write stand together only where they stood together before.
-/

import Mathlib.Data.List.Infix

namespace Library

variable {α β κ : Type*}

/-- A match writes some symbols, cuts others away, and passes over the next ones. -/
structure Match (α : Type*) where
  written : List α
  cut : ℕ
  kept : ℕ

def Match.map (image : α → β) (found : Match α) : Match β :=
  ⟨found.written.map image, found.cut, found.kept⟩

/-- The rule is tried at every position that no earlier match covers. -/
def rewriteFrom (rule : List α → Option (Match α)) : ℕ → ℕ → List α → List α
  | _, _, [] => []
  | cut + 1, kept, _ :: rest => rewriteFrom rule cut kept rest
  | 0, kept + 1, symbol :: rest => symbol :: rewriteFrom rule 0 kept rest
  | 0, 0, symbol :: rest =>
      match rule (symbol :: rest) with
      | none => symbol :: rewriteFrom rule 0 0 rest
      | some found => found.written ++ rewriteFrom rule (found.cut - 1) found.kept rest

def rewrite (rule : List α → Option (Match α)) (text : List α) : List α := rewriteFrom rule 0 0 text

/-- A word matches by the keys of its symbols. -/
def replaceRule [DecidableEq κ] (key : α → κ) (old : List κ) (new text : List α) :
    Option (Match α) :=
  if old <+: text.map key then some ⟨new, old.length, 0⟩ else none

def replaceAll [DecidableEq κ] (key : α → κ) (old : List κ) (new : List α) : List α → List α :=
  rewrite (replaceRule key old new)

section Images

variable (rule : List α → Option (Match α)) (other : List β → Option (Match β)) (image : α → β)

/-- A rewriting that decides by the image of a text writes the image of its result. -/
theorem rewriteFrom_map (agree : ∀ text, other (text.map image) = (rule text).map (Match.map image))
    (text : List α) (cut kept : ℕ) :
    (rewriteFrom rule cut kept text).map image = rewriteFrom other cut kept (text.map image) := by
  induction text generalizing cut kept with
  | nil => cases cut <;> cases kept <;> rfl
  | cons symbol rest ih =>
      cases cut with
      | succ cut => exact ih cut kept
      | zero =>
          cases kept with
          | succ kept => exact congrArg (image symbol :: ·) (ih 0 kept)
          | zero =>
              have same := agree (symbol :: rest)
              rw [List.map_cons] at same
              simp only [rewriteFrom, List.map_cons, same]
              cases rule (symbol :: rest) with
              | none => exact congrArg (image symbol :: ·) (ih 0 0)
              | some found =>
                  simp only [Option.map_some, Match.map, List.map_append]
                  rw [ih]

theorem replaceAll_map [DecidableEq κ] (key : α → κ) (otherKey : β → κ)
    (keys : ∀ symbol, otherKey (image symbol) = key symbol) (old : List κ) (new text : List α) :
    (replaceAll key old new text).map image =
      replaceAll otherKey old (new.map image) (text.map image) := by
  apply rewriteFrom_map
  intro text
  unfold replaceRule
  have same : (text.map image).map otherKey = text.map key := by
    rw [List.map_map]
    exact List.map_congr_left fun symbol _ => keys symbol
  rw [same]
  split <;> rfl

end Images

section Runs

variable (old_symbol : α → Prop) (rule : List α → Option (Match α))

/-- A rule writes something at every match, and nothing that counts as old. -/
def WritesNew : Prop :=
  ∀ text found, rule text = some found →
    found.written ≠ [] ∧ ∀ symbol ∈ found.written, ¬ old_symbol symbol

variable (new : WritesNew old_symbol rule) (run : List α) (old : ∀ symbol ∈ run, old_symbol symbol)

include new old

/-- Old symbols at the start of a result stood at the start of the text. -/
theorem rewriteFrom_prefix (text : List α) (kept : ℕ)
    (first : run <+: rewriteFrom rule 0 kept text) : run <+: text := by
  induction text generalizing run kept with
  | nil => cases kept <;> exact first
  | cons symbol rest ih =>
      cases run with
      | nil => exact List.nil_prefix
      | cons head tail =>
          have tailOld : ∀ symbol ∈ tail, old_symbol symbol := fun symbol member =>
            old symbol (List.mem_cons_of_mem _ member)
          cases kept with
          | succ kept =>
              simp only [rewriteFrom] at first
              rw [List.cons_prefix_cons] at first ⊢
              exact ⟨first.1, ih tail tailOld kept first.2⟩
          | zero =>
              simp only [rewriteFrom] at first
              cases matched : rule (symbol :: rest) with
              | none =>
                  rw [matched] at first
                  dsimp only at first
                  rw [List.cons_prefix_cons] at first ⊢
                  exact ⟨first.1, ih tail tailOld 0 first.2⟩
              | some found =>
                  rw [matched] at first
                  dsimp only at first
                  obtain ⟨filled, fresh⟩ := new _ found matched
                  cases written : found.written with
                  | nil => exact absurd written filled
                  | cons letter letters =>
                      rw [written, List.cons_append, List.cons_prefix_cons] at first
                      have oldHead := old head List.mem_cons_self
                      rw [first.1] at oldHead
                      exact absurd oldHead (fresh letter (by rw [written]; simp))

omit new in
/-- Old symbols stand together in a text that begins with new ones only after those. -/
theorem infix_of_append (filled : run ≠ []) (written text : List α)
    (fresh : ∀ symbol ∈ written, ¬ old_symbol symbol) (inside : run <:+: written ++ text) :
    run <:+: text := by
  induction written with
  | nil => exact inside
  | cons letter letters ih =>
      rw [List.cons_append, List.infix_cons_iff] at inside
      rcases inside with first | later
      · cases run with
        | nil => exact absurd rfl filled
        | cons head tail =>
            rw [List.cons_prefix_cons] at first
            have oldHead := old head List.mem_cons_self
            rw [first.1] at oldHead
            exact absurd oldHead (fresh letter List.mem_cons_self)
      · exact ih (fun symbol member => fresh symbol (List.mem_cons_of_mem _ member)) later

/-- Old symbols that stand together in a result stood together in the text. -/
theorem rewriteFrom_infix (text : List α) (cut kept : ℕ)
    (inside : run <:+: rewriteFrom rule cut kept text) : run <:+: text := by
  by_cases filled : run = []
  · rw [filled]
    exact List.nil_infix
  · induction text generalizing cut kept with
    | nil => cases cut <;> cases kept <;> exact inside
    | cons symbol rest ih =>
        have later : ∀ cut kept, run <:+: rewriteFrom rule cut kept rest →
            run <:+: symbol :: rest := fun cut kept found =>
          (ih cut kept found).trans (List.suffix_cons symbol rest).isInfix
        cases cut with
        | succ cut => exact later cut kept inside
        | zero =>
            have copied : ∀ kept, run <:+: symbol :: rewriteFrom rule 0 kept rest →
                run <:+: symbol :: rest := by
              intro kept found
              rw [List.infix_cons_iff] at found
              rcases found with first | after
              · cases run with
                | nil => exact absurd rfl filled
                | cons head tail =>
                    rw [List.cons_prefix_cons] at first
                    have start := rewriteFrom_prefix old_symbol rule new tail
                      (fun symbol member => old symbol (List.mem_cons_of_mem _ member)) rest kept
                      first.2
                    exact (List.cons_prefix_cons.mpr ⟨first.1, start⟩).isInfix
              · exact later 0 kept after
            cases kept with
            | succ kept => exact copied kept inside
            | zero =>
                simp only [rewriteFrom] at inside
                cases matched : rule (symbol :: rest) with
                | none =>
                    rw [matched] at inside
                    exact copied 0 inside
                | some found =>
                    rw [matched] at inside
                    exact later _ _ (infix_of_append old_symbol run old filled found.written _
                      (new _ found matched).2 inside)

end Runs

section Filled

variable (rule : List α → Option (Match α))

/-- A text after a cut is rewritten from there. -/
theorem rewriteFrom_cut (cut : ℕ) (text : List α) :
    rewriteFrom rule cut 0 text = rewriteFrom rule 0 0 (text.drop cut) := by
  induction cut generalizing text with
  | zero => rfl
  | succ cut ih =>
      cases text with
      | nil => rfl
      | cons symbol rest => exact ih rest

end Filled

section Words

variable [DecidableEq κ] (key : α → κ) (word : List κ) (new : List α)

theorem replaceRule_writes (old_symbol : α → Prop) (filled : new ≠ [])
    (fresh : ∀ symbol ∈ new, ¬ old_symbol symbol) :
    WritesNew old_symbol (replaceRule key word new) := by
  intro text found matched
  unfold replaceRule at matched
  split at matched
  · rw [← Option.some.inj matched]
    exact ⟨filled, fresh⟩
  · simp at matched

/-- A text without the word is not changed. -/
theorem replaceAll_absent (text : List α) (absent : ¬ word <:+: text.map key) :
    replaceAll key word new text = text := by
  unfold replaceAll rewrite
  induction text with
  | nil => rfl
  | cons symbol rest ih =>
      rw [List.map_cons, List.infix_cons_iff, not_or] at absent
      simp only [rewriteFrom, replaceRule, List.map_cons, if_neg absent.1]
      rw [ih absent.2]

/-- No word of old symbols is left. -/
theorem replaceAll_cleared (old_symbol : α → Prop) (filled : new ≠ [])
    (fresh : ∀ symbol ∈ new, ¬ old_symbol symbol) (run : List α)
    (old : ∀ symbol ∈ run, old_symbol symbol) (spelled : run.map key = word) (given : word ≠ [])
    (text : List α) : ¬ run <:+: replaceAll key word new text := by
  have writes := replaceRule_writes key word new old_symbol filled fresh
  have long : run ≠ [] := by
    intro empty
    rw [empty] at spelled
    exact given spelled.symm
  have cleared : ∀ cut, ¬ run <:+: rewriteFrom (replaceRule key word new) cut 0 text := by
    induction text with
    | nil =>
        intro cut inside
        cases cut <;> exact long (List.eq_nil_of_infix_nil inside)
    | cons symbol rest ih =>
        intro cut inside
        cases cut with
        | succ cut => exact ih cut inside
        | zero =>
            by_cases here : word <+: (symbol :: rest).map key
            · simp only [rewriteFrom, replaceRule, if_pos here] at inside
              exact ih _ (infix_of_append old_symbol run old long new _ fresh inside)
            · simp only [rewriteFrom, replaceRule, if_neg here] at inside
              rw [List.infix_cons_iff] at inside
              rcases inside with first | later
              · cases run with
                | nil => exact long rfl
                | cons head tail =>
                    rw [List.cons_prefix_cons] at first
                    have start := rewriteFrom_prefix old_symbol _ writes tail
                      (fun symbol member => old symbol (List.mem_cons_of_mem _ member)) rest 0
                      first.2
                    apply here
                    rw [← spelled]
                    exact (List.cons_prefix_cons.mpr ⟨first.1, start⟩).map key
              · exact ih 0 later
  exact cleared 0

theorem replaceAll_symbol (symbol : κ) (text : List α) :
    replaceAll key [symbol] new text =
      text.flatMap fun other => if key other = symbol then new else [other] := by
  induction text with
  | nil => rfl
  | cons other text ih =>
      rw [List.flatMap_cons, ← ih]
      unfold replaceAll rewrite
      rw [rewriteFrom, replaceRule]
      by_cases same : key other = symbol
      · rw [if_pos (by simp [same]), if_pos same]
        rfl
      · rw [if_neg (by simpa [List.cons_prefix_cons] using Ne.symm same), if_neg same]
        rfl

end Words

end Library
