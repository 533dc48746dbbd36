/-
This file studies loops whose passes each see and change the memory of one key.
Such a loop over distinct keys treats every item as if it came first.
-/

import OperationsConsole.Library.Loop

namespace Library

variable {σ α β κ μ : Type*}

/-- A pass reads the memory of its key, and it changes that memory only, if it acts at all. A pass
that does not act has one result. -/
structure Keyed [DecidableEq κ] (body : σ → α → σ × β) (read : σ → κ → μ) (key : α → κ)
    (acts : α → Bool) (act : μ → α → μ) (out : μ → α → β) : Prop where
  result : ∀ state item, (body state item).2 = out (read state (key item)) item
  memory : ∀ state item other, read (body state item).1 other =
    if acts item = true ∧ other = key item then act (read state other) item else read state other
  skipped : ∀ item, acts item = false → ∀ first second, out first item = out second item

section Keyed

variable [DecidableEq κ] {body : σ → α → σ × β} {read : σ → κ → μ} {key : α → κ}
variable {acts : α → Bool} {act : μ → α → μ} {out : μ → α → β}

/-- The loop leaves the memory of a key unchanged that no acting item has. -/
theorem Keyed.other (keyed : Keyed body read key acts act out) (items : List α) (state : σ)
    (other : κ) (absent : other ∉ (items.filter acts).map key) :
    read (loop body state items).1 other = read state other := by
  apply loop_frame body (fun state => read state other)
  intro state item member
  rw [keyed.memory, if_neg]
  intro both
  apply absent
  rw [both.2]
  exact List.mem_map_of_mem (List.mem_filter.mpr ⟨member, both.1⟩)

/-- Over distinct keys every result is that of a loop over its item alone. -/
theorem Keyed.results (keyed : Keyed body read key acts act out) (items : List α) (state : σ)
    (unique : ((items.filter acts).map key).Nodup) :
    (loop body state items).2 = items.map fun item => out (read state (key item)) item := by
  induction items generalizing state with
  | nil => rfl
  | cons item rest ih =>
      simp only [loop, List.map_cons, keyed.result]
      cases active : acts item with
      | false =>
          rw [List.filter_cons_of_neg (by simp [active])] at unique
          rw [ih _ unique]
          congr 1
          apply List.map_congr_left
          intro later _
          rw [keyed.memory, active]
          simp
      | true =>
          rw [List.filter_cons_of_pos active, List.map_cons, List.nodup_cons] at unique
          rw [ih _ unique.2]
          congr 1
          apply List.map_congr_left
          intro later member
          cases acting : acts later with
          | false => exact keyed.skipped later acting _ _
          | true =>
              rw [keyed.memory, if_neg]
              intro both
              apply unique.1
              rw [← both.2]
              exact List.mem_map_of_mem (List.mem_filter.mpr ⟨member, acting⟩)

/-- Over distinct keys every acting item leaves the memory of its key as it would alone. -/
theorem Keyed.remembered (keyed : Keyed body read key acts act out) (items : List α) (state : σ)
    (unique : ((items.filter acts).map key).Nodup) (item : α) (member : item ∈ items)
    (active : acts item = true) :
    read (loop body state items).1 (key item) = act (read state (key item)) item := by
  obtain ⟨before, rest, split⟩ := List.append_of_mem member
  rw [split, List.filter_append, List.filter_cons_of_pos active, List.map_append, List.map_cons,
    List.nodup_append, List.nodup_cons] at unique
  have earlier : key item ∉ (before.filter acts).map key := fun inside =>
    unique.2.2 _ inside _ List.mem_cons_self rfl
  rw [split, loop_append]
  simp only [loop]
  rw [keyed.other rest _ _ unique.2.1.1, keyed.memory, if_pos ⟨active, rfl⟩,
    keyed.other before _ _ earlier]

/-- A second loop finds the memories that the first one left. -/
theorem Keyed.repeated (keyed : Keyed body read key acts act out) (items : List α)
    (state later : σ) (unique : ((items.filter acts).map key).Nodup)
    (kept : ∀ other, read later other = read (loop body state items).1 other) :
    (loop body later items).2 =
      items.map fun item => out (act (read state (key item)) item) item := by
  rw [keyed.results items later unique]
  apply List.map_congr_left
  intro item member
  cases active : acts item with
  | false => exact keyed.skipped item active _ _
  | true => rw [kept, keyed.remembered items state unique item member active]

/-- Over distinct keys the loop leaves a key as its only acting item does. -/
theorem Keyed.memory_of_key (keyed : Keyed body read key acts act out) (items : List α)
    (state : σ) (unique : ((items.filter acts).map key).Nodup) (own : κ) :
    read (loop body state items).1 own =
      (((items.filter acts).find? fun item => key item = own).map
        (act (read state own))).getD (read state own) := by
  cases found : (items.filter acts).find? fun item => key item = own with
  | none =>
      apply keyed.other
      intro member
      obtain ⟨item, inside, same⟩ := List.mem_map.mp member
      have different := List.find?_eq_none.mp found item inside
      exact different (decide_eq_true same)
  | some item =>
      have same : key item = own := by simpa using List.find?_some found
      obtain ⟨member, active⟩ := List.mem_filter.mp (List.mem_of_find?_eq_some found)
      rw [← same]
      exact keyed.remembered items state unique item member active

/-- Over distinct keys the results that carry a key come from its only acting item. -/
theorem Keyed.results_of_key {γ : Type*} {body : σ → α → σ × List γ} {out : μ → α → List γ}
    (keyed : Keyed body read key acts act out) (label : γ → κ)
    (labelled : ∀ memory item, ∀ result ∈ out memory item, label result = key item)
    (silent : ∀ memory item, acts item = false → out memory item = []) (items : List α)
    (state : σ) (unique : ((items.filter acts).map key).Nodup) (own : κ) :
    ((loop body state items).2.flatten.filter fun result => label result = own) =
      (((items.filter acts).find? fun item => key item = own).map
        (out (read state own))).getD [] := by
  rw [keyed.results items state unique]
  induction items with
  | nil => rfl
  | cons item rest ih =>
      rw [List.map_cons, List.flatten_cons, List.filter_append]
      cases active : acts item with
      | false =>
          rw [List.filter_cons_of_neg (by simp [active])] at unique ⊢
          rw [silent _ item active, ih unique]
          rfl
      | true =>
          rw [List.filter_cons_of_pos active] at unique ⊢
          rw [List.map_cons, List.nodup_cons] at unique
          rw [ih unique.2]
          by_cases same : key item = own
          · have absent : ((rest.filter acts).find? fun item => key item = own) = none := by
              rw [List.find?_eq_none]
              intro other member twin
              apply unique.1
              rw [same, ← of_decide_eq_true twin]
              exact List.mem_map_of_mem member
            have kept : ((out (read state (key item)) item).filter fun result =>
                label result = own) = out (read state (key item)) item := by
              rw [List.filter_eq_self]
              intro result member
              exact decide_eq_true ((labelled _ item result member).trans same)
            have first : ((item :: rest.filter acts).find? fun item => key item = own) =
                some item := List.find?_cons_of_pos (by simpa using same)
            rw [absent, kept, first, same]
            exact List.append_nil _
          · have dropped : ((out (read state (key item)) item).filter fun result =>
                label result = own) = [] := by
              rw [List.filter_eq_nil_iff]
              intro result member carried
              exact same ((labelled _ item result member).symm.trans (of_decide_eq_true carried))
            have later : ((item :: rest.filter acts).find? fun item => key item = own) =
                (rest.filter acts).find? fun item => key item = own :=
              List.find?_cons_of_neg (by simpa using same)
            rw [dropped, later]
            rfl

end Keyed

/-- A loop whose passes count no more than their parts may counts no more than all parts may. -/
theorem countP_loop_le {γ δ : Type*} (body : σ → α → σ × β) (list : β → List γ)
    (counts : γ → Bool) (parts : α → List δ) (may : δ → Bool) (items : List α) (state : σ)
    (bounded : ∀ state, ∀ item ∈ items,
      (list (body state item).2).countP counts ≤ (parts item).countP may) :
    ((loop body state items).2.map list).flatten.countP counts ≤
      (items.flatMap parts).countP may := by
  induction items generalizing state with
  | nil => simp [loop]
  | cons item rest ih =>
      have now := bounded state item List.mem_cons_self
      have later := ih (body state item).1 fun state other member =>
        bounded state other (List.mem_cons_of_mem _ member)
      simp only [loop, List.map_cons, List.flatten_cons, List.flatMap_cons, List.countP_append]
      omega

end Library
