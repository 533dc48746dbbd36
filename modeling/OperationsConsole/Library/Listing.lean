/-
This file gathers facts about listings, whose entries are told apart by a key and a position.
A comparison with two ranks sorts a listing into its two parts, each in the old order.
-/

import Mathlib.Data.List.Sort

namespace Library

variable {α : Type*}

/-- An entry that does not come first is inserted after all the entries that do. -/
theorem orderedInsert_after (order : α → α → Prop) [DecidableRel order] (item : α)
    (first rest : List α) (passes : ∀ other ∈ first, ¬order item other)
    (stays : ∀ other ∈ rest, order item other) :
    (first ++ rest).orderedInsert order item = first ++ item :: rest := by
  induction first with
  | nil =>
      cases rest with
      | nil => rfl
      | cons other rest =>
          rw [List.nil_append, List.nil_append, List.orderedInsert,
            if_pos (stays other List.mem_cons_self)]
  | cons other first ih =>
      rw [List.cons_append, List.orderedInsert, if_neg (passes other List.mem_cons_self),
        ih fun entry member => passes entry (List.mem_cons_of_mem _ member), List.cons_append]

/-- A stable sort by two ranks puts the first part before the second. -/
theorem insertionSort_eq_parts (order : α → α → Prop) [DecidableRel order] (leads : α → Bool)
    (items : List α) (ranked : ∀ item ∈ items, ∀ other ∈ items,
      order item other ↔ leads item = true ∨ leads other = false) :
    items.insertionSort order =
      items.filter leads ++ items.filter fun item => !leads item := by
  induction items with
  | nil => rfl
  | cons item items ih =>
      have compare (other : α) (member : other ∈ items) :
          order item other ↔ leads item = true ∨ leads other = false :=
        ranked item List.mem_cons_self other (List.mem_cons_of_mem _ member)
      rw [List.insertionSort_cons, ih fun first one second two =>
        ranked first (List.mem_cons_of_mem _ one) second (List.mem_cons_of_mem _ two)]
      cases leading : leads item with
      | true =>
          rw [List.filter_cons_of_pos leading, List.filter_cons_of_neg (by simp [leading])]
          refine orderedInsert_after order item [] _ (by simp) ?_
          intro other member
          rcases List.mem_append.mp member with inside | inside
          · exact (compare other (List.mem_of_mem_filter inside)).mpr (.inl leading)
          · exact (compare other (List.mem_of_mem_filter inside)).mpr (.inl leading)
      | false =>
          rw [List.filter_cons_of_neg (by simp [leading]),
            List.filter_cons_of_pos (by simp [leading])]
          refine orderedInsert_after order item _ _ ?_ ?_
          · intro other member before
            obtain ⟨inside, leads⟩ := List.mem_filter.mp member
            rcases (compare other inside).mp before with one | two
            · exact Bool.false_ne_true (leading.symm.trans one)
            · exact Bool.false_ne_true (two.symm.trans leads)
          · intro other member
            obtain ⟨inside, follows⟩ := List.mem_filter.mp member
            exact (compare other inside).mpr (.inr (by simpa using follows))

/-- The numbered entries of a listing occur in another exactly if it is continued there. -/
theorem zipIdx_subset_iff (items others : List α) :
    items.zipIdx ⊆ others.zipIdx ↔ items <+: others := by
  rw [List.prefix_iff_getElem?]
  constructor
  · intro inside index bound
    have numbered : (items[index], index) ∈ items.zipIdx :=
      List.mk_mem_zipIdx_iff_getElem?.mpr (List.getElem?_eq_getElem bound)
    exact List.mk_mem_zipIdx_iff_getElem?.mp (inside numbered)
  · rintro continued ⟨item, index⟩ member
    obtain ⟨bound, same⟩ :=
      List.getElem?_eq_some_iff.mp (List.mk_mem_zipIdx_iff_getElem?.mp member)
    rw [← same]
    exact List.mk_mem_zipIdx_iff_getElem?.mpr (continued index bound)

/-- A text is divided in one way at the first of its separators. -/
theorem divided_first (separator : α) (first second rest other : List α)
    (free : separator ∉ first) (clear : separator ∉ second)
    (same : first ++ separator :: rest = second ++ separator :: other) :
    first = second ∧ rest = other := by
  induction first generalizing second with
  | nil =>
      cases second with
      | nil => exact ⟨rfl, List.tail_eq_of_cons_eq same⟩
      | cons symbol second =>
          exact absurd (List.head_eq_of_cons_eq same) fun equal =>
            clear (List.mem_cons.mpr (.inl equal))
  | cons symbol first ih =>
      cases second with
      | nil =>
          exact absurd (List.head_eq_of_cons_eq same).symm fun equal =>
            free (List.mem_cons.mpr (.inl equal))
      | cons sign second =>
          obtain ⟨parts, rests⟩ := ih second (fun member => free (List.mem_cons_of_mem _ member))
            (fun member => clear (List.mem_cons_of_mem _ member)) (List.tail_eq_of_cons_eq same)
          exact ⟨by rw [parts, List.head_eq_of_cons_eq same], rests⟩

/-- A text is divided in one way at the last of its separators. -/
theorem divided_last (separator : α) (first second rest other : List α)
    (free : separator ∉ rest) (clear : separator ∉ other)
    (same : first ++ separator :: rest = second ++ separator :: other) :
    first = second ∧ rest = other := by
  have reversed : rest.reverse ++ separator :: first.reverse =
      other.reverse ++ separator :: second.reverse := by
    simpa using congrArg List.reverse same
  obtain ⟨rests, firsts⟩ := divided_first separator _ _ _ _ (by simpa using free)
    (by simpa using clear) reversed
  exact ⟨List.reverse_injective firsts, List.reverse_injective rests⟩

/-- Each item is kept once, where it first stands. -/
theorem nodup_eraseDups [DecidableEq α] (items : List α) : items.eraseDups.Nodup := by
  induction size : items.length using Nat.strong_induction_on generalizing items with
  | _ size ih =>
      cases items with
      | nil => simp
      | cons item items =>
          have fewer := List.length_filter_le (fun other => !other == item) items
          rw [List.length_cons] at size
          rw [List.eraseDups_cons, List.nodup_cons]
          constructor
          · intro member
            obtain ⟨_, other⟩ := List.mem_filter.mp (List.mem_eraseDups.mp member)
            simp at other
          · exact ih _ (by omega) _ rfl

theorem length_eraseDups_le [DecidableEq α] (items : List α) :
    items.eraseDups.length ≤ items.length :=
  (List.subperm_of_subset (nodup_eraseDups items) fun _ member =>
    List.mem_eraseDups.mp member).length_le

theorem eraseDups_of_nodup [DecidableEq α] (items : List α) (once : items.Nodup) :
    items.eraseDups = items := by
  induction items with
  | nil => rfl
  | cons first rest ih =>
      rw [List.nodup_cons] at once
      have others : rest.filter (fun other => !other == first) = rest := by
        rw [List.filter_eq_self]
        intro other member
        have different : other ≠ first := fun same => once.1 (same ▸ member)
        simpa using different
      rw [List.eraseDups_cons, others, ih once.2]

/-- A sorted listing without repetition increases strictly. -/
theorem insertionSort_strict [LinearOrder α] (items : List α) (once : items.Nodup) :
    (items.insertionSort (· ≤ ·)).Pairwise (· < ·) := by
  have ordered := List.pairwise_insertionSort (· ≤ ·) items
  have distinct := (List.perm_insertionSort (· ≤ ·) items).nodup_iff.mpr once
  exact (ordered.and distinct).imp fun both => lt_of_le_of_ne both.1 both.2

/-- Two increasing listings of the same items are equal. -/
theorem eq_of_increasing [LinearOrder α] (items others : List α) (one : items.Pairwise (· < ·))
    (two : others.Pairwise (· < ·)) (same : ∀ item, item ∈ items ↔ item ∈ others) :
    items = others := by
  have perm := (List.perm_ext_iff_of_nodup (one.imp ne_of_lt) (two.imp ne_of_lt)).mpr same
  exact perm.eq_of_pairwise' (one.imp le_of_lt) (two.imp le_of_lt)

/-- Paired items that look alike give the same listing. -/
theorem map_eq_of_forall₂ {β γ : Type*} {related : α → β → Prop} {items : List α} {others : List β}
    (pairs : List.Forall₂ related items others) (f : α → γ) (g : β → γ)
    (same : ∀ item other, related item other → f item = g other) :
    items.map f = others.map g := by
  induction pairs with
  | nil => rfl
  | cons head _ ih => rw [List.map_cons, List.map_cons, same _ _ head, ih]

theorem mapM_eq_some_iff {β : Type*} (run : α → Option β) (items : List α) (values : List β) :
    items.mapM run = some values ↔
      List.Forall₂ (fun item value => run item = some value) items values := by
  induction items generalizing values with
  | nil =>
      rw [List.mapM_nil, List.forall₂_nil_left_iff]
      exact ⟨fun same => (Option.some.inj same).symm, fun same => congrArg some same.symm⟩
  | cons item items ih =>
      rw [List.mapM_cons, List.forall₂_cons_left_iff]
      simp only [Option.bind_eq_bind, Option.bind_eq_some_iff, ih]
      constructor
      · rintro ⟨value, first, rest, later, same⟩
        exact ⟨value, rest, first, later, (Option.some.inj same).symm⟩
      · rintro ⟨value, rest, first, later, rfl⟩
        exact ⟨value, first, rest, later, rfl⟩

/-- A listing of values by positions equals one by items exactly if each position agrees. -/
theorem map_range_eq_iff {β : Type*} (count : ℕ) (f : ℕ → β) (items : List α) (g : α → β) :
    (List.range count).map f = items.map g ↔
      count = items.length ∧ ∀ place, ∀ inside : place < items.length,
        f place = g items[place] := by
  constructor
  · intro same
    have lengths := congrArg List.length same
    rw [List.length_map, List.length_range, List.length_map] at lengths
    refine ⟨lengths, ?_⟩
    intro place inside
    have one := congrArg (·[place]?) same
    simpa [inside, lengths] using one
  · rintro ⟨rfl, each⟩
    apply List.ext_getElem
    · simp
    · intro place one two
      rw [List.length_map] at two
      simpa using each place two

/-- The first index that satisfies a test finds an item, if one does. -/
theorem getElem?_findIdx (holds : α → Bool) (items : List α) (item : α) (member : item ∈ items)
    (held : holds item = true) :
    ∃ found, items[items.findIdx holds]? = some found ∧ holds found = true :=
  ⟨_, List.findIdx_getElem?_eq_getElem_of_exists ⟨item, member, held⟩, List.findIdx_getElem⟩

end Library
