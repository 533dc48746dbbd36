/-
This file gathers the rules of computations that return a value or raise an exception.
A computation on every item of a list returns exactly if each of its items returns.
-/

import Mathlib.Data.List.Forall2

namespace Library

universe u

variable {ε α β σ : Type u}

/-- A computation returns if it raises nothing. -/
def Returns (run : Except ε α) : Prop := ∃ value, run = .ok value

namespace Returns

@[simp] theorem ok (value : α) : Returns (.ok value : Except ε α) := ⟨value, rfl⟩

@[simp] theorem pure (value : α) : Returns (Pure.pure value : Except ε α) := ⟨value, rfl⟩

@[simp] theorem error (exception : ε) : ¬Returns (.error exception : Except ε α) := by
  rintro ⟨value, same⟩
  cases same

theorem bind_iff (run : Except ε α) (next : α → Except ε β) :
    Returns (run >>= next) ↔ ∃ value, run = .ok value ∧ Returns (next value) := by
  cases run with
  | error exception =>
      constructor
      · intro returns
        exact absurd returns (error exception)
      · rintro ⟨value, same, _⟩
        cases same
  | ok value =>
      constructor
      · intro returns
        exact ⟨value, rfl, returns⟩
      · rintro ⟨other, same, returns⟩
        rw [Except.ok.inj same]
        exact returns

theorem bind_of_total (run : Except ε α) (next : α → Except ε β)
    (total : ∀ value, Returns (next value)) : Returns (run >>= next) ↔ Returns run := by
  rw [bind_iff]
  constructor
  · intro held
    obtain ⟨value, same, _⟩ := held
    exact ⟨value, same⟩
  · intro held
    obtain ⟨value, same⟩ := held
    exact ⟨value, same, total value⟩

theorem map_iff (run : Except ε α) (change : α → β) : Returns (change <$> run) ↔ Returns run := by
  cases run with
  | error exception => exact iff_of_false (error exception) (error exception)
  | ok value => exact iff_of_true (ok _) (ok _)

end Returns

theorem bind_eq_ok_iff (run : Except ε α) (next : α → Except ε β) (value : β) :
    (run >>= next) = .ok value ↔ ∃ first, run = .ok first ∧ next first = .ok value := by
  cases run with
  | error exception =>
      constructor
      · intro same
        cases same
      · rintro ⟨first, same, _⟩
        cases same
  | ok first =>
      constructor
      · intro same
        exact ⟨first, rfl, same⟩
      · rintro ⟨other, same, later⟩
        rw [Except.ok.inj same]
        exact later

section Lists

variable (run : α → Except ε β)

theorem mapM_cons_eq_ok_iff (item : α) (items : List α) (values : List β) :
    (item :: items).mapM run = .ok values ↔
      ∃ value rest, run item = .ok value ∧ items.mapM run = .ok rest ∧ values = value :: rest := by
  rw [List.mapM_cons, bind_eq_ok_iff]
  constructor
  · rintro ⟨value, first, same⟩
    obtain ⟨rest, later, same⟩ := (bind_eq_ok_iff _ _ _).mp same
    exact ⟨value, rest, first, later, (Except.ok.inj same).symm⟩
  · rintro ⟨value, rest, first, later, rfl⟩
    exact ⟨value, first, (bind_eq_ok_iff _ _ _).mpr ⟨rest, later, rfl⟩⟩

/-- The values of a list are in the order of its items. -/
theorem mapM_eq_ok_iff (items : List α) (values : List β) :
    items.mapM run = .ok values ↔
      List.Forall₂ (fun item value => run item = .ok value) items values := by
  induction items generalizing values with
  | nil =>
      rw [List.mapM_nil, List.forall₂_nil_left_iff]
      constructor
      · intro same
        exact (Except.ok.inj same).symm
      · intro same
        rw [same]
        rfl
  | cons item items ih =>
      rw [mapM_cons_eq_ok_iff, List.forall₂_cons_left_iff]
      constructor
      · rintro ⟨value, rest, first, later, same⟩
        exact ⟨value, rest, first, (ih rest).mp later, same⟩
      · rintro ⟨value, rest, first, later, same⟩
        exact ⟨value, rest, first, (ih rest).mpr later, same⟩

/-- The computation returns on a list exactly if it returns on each of its items. -/
theorem returns_mapM_iff (items : List α) :
    Returns (items.mapM run) ↔ ∀ item ∈ items, Returns (run item) := by
  induction items with
  | nil => simp
  | cons item items ih =>
      rw [List.forall_mem_cons, ← ih]
      constructor
      · rintro ⟨values, done⟩
        obtain ⟨value, rest, first, later, _⟩ := (mapM_cons_eq_ok_iff run _ _ _).mp done
        exact ⟨⟨value, first⟩, ⟨rest, later⟩⟩
      · rintro ⟨⟨value, first⟩, ⟨rest, later⟩⟩
        exact ⟨value :: rest, (mapM_cons_eq_ok_iff run _ _ _).mpr ⟨value, rest, first, later, rfl⟩⟩

/-- Every value of a list comes from one of its items. -/
theorem mem_of_mapM (items : List α) (values : List β) (done : items.mapM run = .ok values)
    (value : β) (member : value ∈ values) : ∃ item ∈ items, run item = .ok value := by
  induction items generalizing values with
  | nil =>
      rw [← Except.ok.inj done] at member
      cases member
  | cons item items ih =>
      obtain ⟨head, rest, first, later, rfl⟩ := (mapM_cons_eq_ok_iff run _ _ _).mp done
      rcases List.mem_cons.mp member with same | inside
      · exact ⟨item, List.mem_cons_self, by rw [first, same]⟩
      · obtain ⟨other, found, same⟩ := ih rest later inside
        exact ⟨other, List.mem_cons_of_mem _ found, same⟩

/-- Every item of a list yields one of the values. -/
theorem mapM_mem (items : List α) (values : List β) (done : items.mapM run = .ok values)
    (item : α) (member : item ∈ items) : ∃ value ∈ values, run item = .ok value := by
  induction items generalizing values with
  | nil => cases member
  | cons head items ih =>
      obtain ⟨value, rest, first, later, rfl⟩ := (mapM_cons_eq_ok_iff run _ _ _).mp done
      rcases List.mem_cons.mp member with same | inside
      · exact ⟨value, List.mem_cons_self, by rw [same, first]⟩
      · obtain ⟨other, found, same⟩ := ih rest later inside
        exact ⟨other, List.mem_cons_of_mem _ found, same⟩

/-- Computations that agree on the items of a list agree on the list. -/
theorem mapM_congr (other : α → Except ε β) (items : List α)
    (same : ∀ item ∈ items, run item = other item) : items.mapM run = items.mapM other := by
  induction items with
  | nil => rfl
  | cons item items ih =>
      rw [List.mapM_cons, List.mapM_cons, same item List.mem_cons_self,
        ih fun other member => same other (List.mem_cons_of_mem _ member)]

/-- The first items yield the first values. -/
theorem mapM_take (count : Nat) (items : List α) (values : List β)
    (done : items.mapM run = .ok values) :
    (items.take count).mapM run = .ok (values.take count) :=
  (mapM_eq_ok_iff run _ _).mpr
    (List.forall₂_take count ((mapM_eq_ok_iff run items values).mp done))

/-- A computation without values returns on a list exactly if it returns on each of its items. -/
theorem returns_forM_iff (act : α → Except ε PUnit) (items : List α) :
    Returns (items.forM act) ↔ ∀ item ∈ items, Returns (act item) := by
  induction items with
  | nil => simp [List.forM]
  | cons item items ih =>
      change Returns (act item >>= fun _ => items.forM act) ↔ _
      rw [Returns.bind_iff, List.forall_mem_cons, ← ih]
      constructor
      · rintro ⟨done, first, rest⟩
        exact ⟨⟨done, first⟩, rest⟩
      · rintro ⟨⟨done, first⟩, rest⟩
        exact ⟨done, first, rest⟩

end Lists

section Folds

variable (step : σ → α → Except ε σ)

theorem foldlM_cons_eq_ok_iff (state : σ) (item : α) (items : List α) (final : σ) :
    (item :: items).foldlM step state = .ok final ↔
      ∃ next, step state item = .ok next ∧ items.foldlM step next = .ok final := by
  rw [List.foldlM_cons, bind_eq_ok_iff]

/-- A loop whose steps return whatever the state is returns exactly if each of its steps does. -/
theorem returns_foldlM_iff (fits : α → Prop)
    (exact : ∀ state item, Returns (step state item) ↔ fits item) (items : List α) (state : σ) :
    Returns (items.foldlM step state) ↔ ∀ item ∈ items, fits item := by
  induction items generalizing state with
  | nil => simp
  | cons item items ih =>
      rw [List.forall_mem_cons, ← exact state item]
      constructor
      · rintro ⟨final, done⟩
        obtain ⟨next, first, later⟩ := (foldlM_cons_eq_ok_iff step _ _ _ _).mp done
        exact ⟨⟨next, first⟩, (ih next).mp ⟨final, later⟩⟩
      · rintro ⟨⟨next, first⟩, rest⟩
        obtain ⟨final, later⟩ := (ih next).mpr rest
        exact ⟨final, (foldlM_cons_eq_ok_iff step _ _ _ _).mpr ⟨next, first, later⟩⟩

/-- A loop over numbered items that does not look at the numbers is a loop over the items. -/
theorem foldlM_zipIdx (numbered : σ → α × Nat → Except ε σ) (items : List α) (offset : Nat)
    (state : σ) (same : ∀ item ∈ items, ∀ state index, numbered state (item, index) = step state item) :
    (items.zipIdx offset).foldlM numbered state = items.foldlM step state := by
  induction items generalizing offset state with
  | nil => rfl
  | cons item items ih =>
      rw [List.zipIdx_cons, List.foldlM_cons, List.foldlM_cons, same item List.mem_cons_self]
      congr 1
      funext next
      exact ih (offset + 1) next fun other member => same other (List.mem_cons_of_mem _ member)

/-- What holds of the items so far and the state holds at the end of the loop. -/
theorem foldlM_invariant (invariant : List α → σ → Prop) (initial : σ) (start : invariant [] initial)
    (kept : ∀ earlier item state next, invariant earlier state → step state item = .ok next →
      invariant (earlier ++ [item]) next)
    (items : List α) (final : σ) (done : items.foldlM step initial = .ok final) :
    invariant items final := by
  have general (rest earlier : List α) (state : σ) (holds : invariant earlier state)
      (ends : rest.foldlM step state = .ok final) : invariant (earlier ++ rest) final := by
    induction rest generalizing earlier state with
    | nil =>
        rw [List.append_nil, ← Except.ok.inj ends]
        exact holds
    | cons item rest ih =>
        obtain ⟨next, first, later⟩ := (foldlM_cons_eq_ok_iff step _ _ _ _).mp ends
        rw [List.append_cons]
        exact ih (earlier ++ [item]) next (kept earlier item state next holds first) later
  exact general items [] initial start done

end Folds

section Likeness

/-- Two results are alike, or both are one exception. -/
inductive AlikeResults (alike : α → β → Prop) : Except ε α → Except ε β → Prop where
  | ok (first : α) (second : β) (same : alike first second) :
      AlikeResults alike (.ok first) (.ok second)
  | error (failure : ε) : AlikeResults alike (.error failure) (.error failure)

/-- Lists of results that are alike give results of lists that are alike. -/
theorem AlikeResults.mapM {γ δ : Type u} (alike : α → β → Prop) (f : γ → Except ε α)
    (g : δ → Except ε β) (firsts : List γ) (seconds : List δ)
    (each : List.Forall₂ (fun first second => AlikeResults alike (f first) (g second))
      firsts seconds) :
    AlikeResults (List.Forall₂ alike) (firsts.mapM f) (seconds.mapM g) := by
  induction each with
  | nil => exact .ok [] [] .nil
  | @cons first second firsts seconds head tail ih =>
      rw [List.mapM_cons, List.mapM_cons]
      generalize f first = one at head ⊢
      generalize g second = other at head ⊢
      generalize firsts.mapM f = ones at ih ⊢
      generalize seconds.mapM g = others at ih ⊢
      cases head with
      | error failure => exact .error failure
      | ok a b same =>
          cases ih with
          | error failure => exact .error failure
          | ok as bs rest => exact .ok (a :: as) (b :: bs) (.cons same rest)

theorem AlikeResults.refl (alike : α → α → Prop) (same : ∀ value, alike value value)
    (result : Except ε α) : AlikeResults alike result result := by
  cases result with
  | ok value => exact .ok value value (same value)
  | error failure => exact .error failure

end Likeness

end Library
