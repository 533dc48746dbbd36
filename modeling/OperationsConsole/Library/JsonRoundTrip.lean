/-
This file proves that the JSON reader gives back the values of the writer, up to the surrogates that it
joins, and that a value which was read is written and read again without a failure.
-/

import Mathlib.Data.Nat.Digits.Defs
import Mathlib.Tactic.Ring
import OperationsConsole.Library.JsonNumbers
import OperationsConsole.Library.JsonStrings

namespace Library.JsonText

section Separated

variable {α β : Type} (closing : Char) (scan : PyText → Except Raised (β × PyText))
variable (write : α → List Char) (result : α → β)

/-- The scan gives an item back, whatever follows it. -/
def Reads (item : α) : Prop :=
  ∀ rest, Closed rest → scan (symbols (write item) ++ rest) = .ok (result item, rest)

/-- A text starts with a sign that is neither blank nor closes a container. -/
def Opens (text : List Char) : Prop :=
  ∃ first later, text = first :: later ∧ isBlank (.scalar first) = false ∧ first ≠ ']' ∧
    first ≠ '\x7d'

/-- The signs that end an item close it. -/
theorem closed_cons (sign : Char) (closes : sign ∈ [',', ']', '\x7d']) (rest : PyText) :
    Closed (.scalar sign :: rest) := by
  intro symbol first
  rw [← Option.some.inj first]
  exact List.mem_map_of_mem closes

/-- Nothing is skipped before a sign that is not blank. -/
theorem skip_cons (symbol : Symbol) (filled : isBlank symbol = false) (rest : PyText) :
    skip (symbol :: rest) = symbol :: rest :=
  List.dropWhile_cons_of_neg (by rw [filled]; decide)

theorem Opens.skip {text : List Char} (opens : Opens text) (rest : PyText) :
    skip (symbols text ++ rest) = symbols text ++ rest := by
  obtain ⟨first, later, rfl, filled, _⟩ := opens
  exact skip_cons (.scalar first) filled _

/-- After an item comes the closing sign, or a comma and the later items. -/
theorem readSeparated_step (count : ℕ) (text rest : PyText) (item : β) (sign : Char)
    (read : scan text = .ok (item, .scalar sign :: rest)) (filled : isBlank (.scalar sign) = false) :
    readSeparated closing scan (count + 1) text =
      if sign = closing then .ok ([item], rest)
      else if sign = ',' then
        (readSeparated closing scan count (skip rest)).map fun later => (item :: later.1, later.2)
      else .error .jsonDecodeError := by
  rw [readSeparated, read]
  dsimp only [bind, Except.bind]
  rw [skip_cons _ filled]
  dsimp only
  split
  · rfl
  · split
    · cases readSeparated closing scan count (skip rest) <;> rfl
    · rfl

variable (closes : closing = ']' ∨ closing = '\x7d') (opens : ∀ item, Opens (write item))

include closes opens

omit closes in
/-- A list of items starts as its first item does. -/
theorem opens_intercalate (first : α) (items : List α) :
    Opens ([','].intercalate ((first :: items).map write)) := by
  obtain ⟨sign, tail, text, apart⟩ := opens first
  cases items with
  | nil => exact ⟨sign, tail, by simpa using text, apart⟩
  | cons other items =>
      refine ⟨sign, tail ++ ',' :: [','].intercalate ((other :: items).map write), ?_, apart⟩
      rw [List.map_cons, List.map_cons, List.intercalate_cons_cons, text]
      simp

/-- The loop reads the items that stand between commas. -/
theorem readSeparated_symbols (items : List α) (first : α) (count : ℕ) (enough : items.length < count)
    (reads : ∀ item ∈ first :: items, Reads scan write result item) (rest : PyText) :
    readSeparated closing scan count
        (symbols ([','].intercalate ((first :: items).map write)) ++ .scalar closing :: rest) =
      .ok ((first :: items).map result, rest) := by
  have filled : isBlank (.scalar closing) = false := by
    rcases closes with rfl | rfl <;> decide
  have listed : closing ∈ [',', ']', '\x7d'] := by
    rcases closes with rfl | rfl <;> decide
  have differs : ',' ≠ closing := by
    rcases closes with rfl | rfl <;> decide
  induction items generalizing first count with
  | nil =>
      cases count with
      | zero => exact absurd enough (Nat.not_lt_zero _)
      | succ count =>
          have read := reads first List.mem_cons_self _ (closed_cons closing listed rest)
          rw [List.map_singleton, List.intercalate_singleton,
            readSeparated_step closing scan count _ _ _ _ read filled, if_pos rfl]
          rfl
  | cons next items ih =>
      cases count with
      | zero => exact absurd enough (Nat.not_lt_zero _)
      | succ count =>
          have later := ih next count (Nat.lt_of_succ_lt_succ enough) fun item member =>
            reads item (List.mem_cons_of_mem first member)
          have read := reads first List.mem_cons_self
            (.scalar ',' :: (symbols ([','].intercalate ((next :: items).map write)) ++
              .scalar closing :: rest)) (closed_cons ',' (by decide) _)
          rw [List.map_cons, List.map_cons, List.intercalate_cons_cons, ← List.map_cons]
          simp only [symbols_append, symbols_cons, List.append_assoc, List.cons_append,
            List.nil_append]
          rw [readSeparated_step closing scan count _ _ _ _ read (by decide), if_neg differs,
            if_pos rfl, (opens_intercalate write opens next items).skip, later]
          rfl

omit opens closes in
/-- There is a comma before every further part. -/
theorem length_le_intercalate (first : List Char) (parts : List (List Char)) :
    parts.length ≤ ([','].intercalate (first :: parts)).length := by
  induction parts generalizing first with
  | nil => exact Nat.zero_le _
  | cons next parts ih =>
      have fewer := ih next
      rw [List.intercalate_cons_cons]
      simp only [List.length_append, List.length_cons, List.length_nil]
      omega

/-- The items of a container are read again. -/
theorem readItems_symbols (items : List α) (reads : ∀ item ∈ items, Reads scan write result item)
    (rest : PyText) :
    readItems closing scan
        (symbols ([','].intercalate (items.map write)) ++ .scalar closing :: rest) =
      .ok (items.map result, rest) := by
  have filled : isBlank (.scalar closing) = false := by
    rcases closes with rfl | rfl <;> decide
  cases items with
  | nil =>
      change readItems closing scan (.scalar closing :: rest) = _
      unfold readItems
      rw [skip_cons _ filled]
      exact if_pos rfl
  | cons first items =>
      have opened := opens_intercalate write opens first items
      have longer := length_le_intercalate (write first) (items.map write)
      rw [List.length_map] at longer
      have later := readSeparated_symbols closing scan write result closes opens items first
        (symbols ([','].intercalate ((first :: items).map write)) ++ .scalar closing :: rest).length
        (by
          rw [List.length_append, symbols, List.length_map, List.map_cons, List.length_cons]
          omega) reads rest
      have apart : ¬(symbols ([','].intercalate ((first :: items).map write)) ++
          .scalar closing :: rest).head? = some (.scalar closing) := by
        obtain ⟨sign, tail, text, _, list, dict⟩ := opened
        rw [text]
        intro same
        have equal : sign = closing := Symbol.scalar.inj (Option.some.inj same)
        rcases closes with rfl | rfl
        · exact list equal
        · exact dict equal
      unfold readItems
      rw [opened.skip]
      dsimp only
      rw [if_neg apart]
      exact later

end Separated

section Values

variable {φ : Type}

/-- The values directly inside a value. -/
def Value.parts : Value φ → List (Value φ)
  | .list items => items
  | .dict items => items.map Prod.snd
  | _ => []

def Value.isContainer : Value φ → Bool
  | .list _ => true
  | .dict _ => true
  | _ => false

/-- An integer has no more digits than the language converts. -/
def Value.isShort : Value φ → Bool
  | .int value => (Nat.toDigits 10 value.natAbs).length ≤ maxDigits
  | _ => true

/-- The containers of a value nest no deeper than the limit, and its integers are short. -/
def Fits : ℕ → Value φ → Prop
  | 0, value => value.isShort = true ∧ value.isContainer = false
  | limit + 1, value => value.isShort = true ∧ ∀ part ∈ value.parts, Fits limit part

mutual

/-- The texts of a value have joined surrogates, and then the last member of a key counts. -/
def settle : Value φ → Value φ
  | .text value => .text (joined value)
  | .list items => .list (settleItems items)
  | .dict items => .dict (dictOf (settleMembers items))
  | .null => .null
  | .bool value => .bool value
  | .int value => .int value
  | .float value => .float value

def settleItems : List (Value φ) → List (Value φ)
  | [] => []
  | item :: rest => settle item :: settleItems rest

def settleMembers : List (PyText × Value φ) → List (PyText × Value φ)
  | [] => []
  | member :: rest => settleMember member :: settleMembers rest

def settleMember : PyText × Value φ → PyText × Value φ
  | (key, value) => (joined key, settle value)

end

theorem settleItems_eq_map (items : List (Value φ)) : settleItems items = items.map settle := by
  induction items with
  | nil => rfl
  | cons item rest ih => rw [settleItems, ih, List.map_cons]

theorem settleMembers_eq_map (members : List (PyText × Value φ)) :
    settleMembers members = members.map settleMember := by
  induction members with
  | nil => rfl
  | cons member rest ih => rw [settleMembers, ih, List.map_cons]

variable (format : FloatFormat φ)

theorem opens_dumpsMember (member : PyText × Value φ) : Opens (dumpsMember format member) := by
  obtain ⟨key, value⟩ := member
  exact ⟨'"', _, rfl, by decide, by decide, by decide⟩

theorem opens_numeral {sign whole fraction exponent : List Char}
    (numeral : IsNumeral sign whole fraction exponent) :
    Opens (sign ++ (whole ++ (fraction ++ exponent))) := by
  obtain ⟨first, later, text, number⟩ := numeral.first
  rw [text]
  rcases number with ⟨rfl, _⟩ | digit
  · exact ⟨'-', later, rfl, by decide, by decide, by decide⟩
  · have other (char : Char) (plain : char.isDigit = false) : first ≠ char := by
      rintro rfl
      exact absurd (digit.symm.trans plain) (by decide)
    refine ⟨first, later, rfl, ?_, other ']' rfl, other '\x7d' rfl⟩
    simp [isBlank, other ' ' rfl, other '\t' rfl, other '\n' rfl, other '\r' rfl]

/-- No written value starts with a blank or with a closing sign. -/
theorem opens_dumps (value : Value φ) : Opens (dumps format value) := by
  cases value with
  | null => exact ⟨'n', _, rfl, by decide, by decide, by decide⟩
  | bool value =>
      cases value with
      | false => exact ⟨'f', _, rfl, by decide, by decide, by decide⟩
      | true => exact ⟨'t', _, rfl, by decide, by decide, by decide⟩
  | int value =>
      rw [dumps, writeInt_eq]
      exact opens_numeral (isNumeral_writeInt _ (by split <;> simp) _)
  | float value =>
      rw [dumps, writeFloat]
      cases kind : format.special value with
      | some special =>
          rcases special with _ | (_ | _)
          · exact ⟨'N', _, rfl, by decide, by decide, by decide⟩
          · exact ⟨'I', _, rfl, by decide, by decide, by decide⟩
          · exact ⟨'-', _, rfl, by decide, by decide, by decide⟩
      | none =>
          obtain ⟨⟨_, _, _, _, text, numeral, _⟩, _⟩ := format.repr_float value kind
          dsimp only
          rw [text]
          exact opens_numeral numeral
  | text value => exact ⟨'"', _, rfl, by decide, by decide, by decide⟩
  | list items => exact ⟨'[', _, rfl, by decide, by decide, by decide⟩
  | dict items => exact ⟨'\x7b', _, rfl, by decide, by decide, by decide⟩

variable (scan : PyText → Except Raised (Value φ × PyText))

/-- The key of a written member is read, and its value follows. -/
theorem readKey_dumpsMember (key : PyText) (value : Value φ) (rest : PyText) :
    readKey (symbols (dumpsMember format (key, value)) ++ rest) =
      .ok (joined key, symbols (dumps format value) ++ rest) := by
  have opened := (opens_dumps format value).skip rest
  have colon : skip (.scalar ':' :: (symbols (dumps format value) ++ rest)) =
      .scalar ':' :: (symbols (dumps format value) ++ rest) := skip_cons _ (by decide) _
  have text := readText_writeText key (.scalar ':' :: (symbols (dumps format value) ++ rest))
  simp only [dumpsMember, writeText, symbols_append, symbols_cons, List.cons_append,
    List.append_assoc, List.nil_append]
  rw [readKey]
  unfold symbols at text ⊢
  rw [text]
  unfold symbols at colon opened
  simp only [colon, opened]

/-- A member is read again if its value is. -/
theorem reads_member (member : PyText × Value φ)
    (reads : Reads scan (dumps format) settle member.2) :
    Reads (readMember scan) (dumpsMember format) settleMember member := by
  obtain ⟨key, value⟩ := member
  intro rest closed
  rw [readMember, readKey_dumpsMember]
  change (scan (symbols (dumps format value) ++ rest) >>= _) = _
  rw [reads rest closed]
  rfl

/-- There is a nested scan for every container, and it gives the parts back. -/
def ReadsParts (nested : Option (PyText → Except Raised (Value φ × PyText))) (value : Value φ) :
    Prop :=
  match nested with
  | some scan => ∀ part ∈ value.parts, Reads scan (dumps format) settle part
  | none => value.isContainer = false

/-- A written value is read again if its parts are. -/
theorem readValue_dumps (nested : Option (PyText → Except Raised (Value φ × PyText)))
    (value : Value φ) (short : value.isShort = true) (reads : ReadsParts format nested value) :
    Reads (readValue format nested) (dumps format) settle value := by
  intro rest closed
  cases value with
  | null => rfl
  | bool value => cases value <;> rfl
  | int value => exact readValue_writeInt format nested value (of_decide_eq_true short) rest closed
  | float value => exact readValue_writeFloat format nested value rest closed
  | text value =>
      have text := readText_writeText value rest
      simp only [dumps, writeText, symbols_append, symbols_cons, List.cons_append,
        List.append_assoc]
      unfold symbols
      rw [readValue]
      simp only [List.map_nil, List.nil_append, text]
      rfl
  | list items =>
      cases nested with
      | none => exact Bool.noConfusion reads
      | some scan =>
          have read := readItems_symbols ']' scan (dumps format) settle (.inl rfl)
            (opens_dumps format) items reads rest
          simp only [dumps, symbols_append, symbols_cons, List.cons_append,
            List.append_assoc, dumpsItems_eq_map]
          rw [readValue, readNested, readList]
          change (readItems ']' scan (_ ++ .scalar ']' :: rest) >>= _) = _
          rw [read, settle, settleItems_eq_map]
          rfl
  | dict items =>
      cases nested with
      | none => exact Bool.noConfusion reads
      | some scan =>
          have read := readItems_symbols '\x7d' (readMember scan) (dumpsMember format) settleMember
            (.inr rfl) (opens_dumpsMember format) items (fun member listed =>
              reads_member format scan member (reads member.2 (List.mem_map_of_mem listed))) rest
          simp only [dumps, symbols_append, symbols_cons, List.cons_append,
            List.append_assoc, dumpsMembers_eq_map]
          rw [readValue, readNested, readDict]
          change (readItems '\x7d' (readMember scan) (_ ++ .scalar '\x7d' :: rest) >>= _) = _
          rw [read, settle, settleMembers_eq_map]
          rfl

/-- A value that fits the limit is read again. -/
theorem scanOnce_dumps (limit : ℕ) (value : Value φ) (fits : Fits limit value) :
    Reads (scanOnce format limit) (dumps format) settle value := by
  induction limit generalizing value with
  | zero => exact readValue_dumps format none value fits.1 fits.2
  | succ limit ih =>
      exact readValue_dumps format (some (scanOnce format limit)) value fits.1 fun part member =>
        ih part (fits.2 part member)

/-- The whole text is one value. -/
theorem loads_dumps (limit : ℕ) (value : Value φ) (fits : Fits limit value) :
    loads format limit (symbols (dumps format value)) = .ok (settle value) := by
  have opened := (opens_dumps format value).skip []
  have read := scanOnce_dumps format limit value fits [] fun symbol first => absurd first (by simp)
  rw [List.append_nil] at opened read
  rw [loads, opened, read]
  rfl

/-- An exception for the value of a first member is the exception for its dictionary. -/
theorem loads_dict_raises (limit : ℕ) (key : PyText) (value : Value φ)
    (members : List (PyText × Value φ)) (error : Raised)
    (raises : ∀ rest, Closed rest →
      scanOnce format limit (symbols (dumps format value) ++ rest) = .error error) :
    loads format (limit + 1) (symbols (dumps format (.dict ((key, value) :: members)))) =
      .error error := by
  obtain ⟨rest, closed, text⟩ : ∃ rest, Closed rest ∧
      symbols (dumps format (.dict ((key, value) :: members))) =
        .scalar '\x7b' :: (symbols (dumpsMember format (key, value)) ++ rest) := by
    cases members with
    | nil =>
        refine ⟨[.scalar '\x7d'], closed_cons '\x7d' (by decide) [], ?_⟩
        simp [dumps, dumpsMembers_eq_map, symbols]
    | cons next members =>
        refine ⟨.scalar ',' :: symbols ([','].intercalate
          ((next :: members).map (dumpsMember format)) ++ ['\x7d']), closed_cons ',' (by decide) _, ?_⟩
        simp [dumps, dumpsMembers_eq_map, symbols, List.intercalate_cons_cons]
  have opened := opens_dumpsMember format (key, value)
  have first : (symbols (dumpsMember format (key, value)) ++ rest).head? ≠ some (.scalar '\x7d') := by
    obtain ⟨sign, later, same, _, _, dict⟩ := opened
    rw [same]
    exact fun equal => dict (Symbol.scalar.inj (Option.some.inj equal))
  obtain ⟨count, size⟩ : ∃ count, (symbols (dumpsMember format (key, value)) ++ rest).length =
      count + 1 := by
    obtain ⟨sign, later, same, _⟩ := opened
    rw [same]
    exact ⟨_, rfl⟩
  have member : readMember (scanOnce format limit)
      (symbols (dumpsMember format (key, value)) ++ rest) = .error error := by
    rw [readMember, readKey_dumpsMember]
    change (scanOnce format limit (symbols (dumps format value) ++ rest) >>= _) = _
    rw [raises rest closed]
    rfl
  have items : readItems '\x7d' (readMember (scanOnce format limit))
      (symbols (dumpsMember format (key, value)) ++ rest) = .error error := by
    unfold readItems
    rw [opened.skip]
    dsimp only
    rw [if_neg first, size, readSeparated, member]
    rfl
  rw [loads, text, skip_cons _ (by decide), scanOnce, readValue, readNested, readDict, items]
  rfl

end Values

section Reread

variable {φ : Type} (format : FloatFormat φ)

/-- Every item of a list was scanned from some text. -/
theorem readSeparated_from {α : Type} (closing : Char) (scan : PyText → Except Raised (α × PyText))
    (count : ℕ) (text rest : PyText) (items : List α)
    (read : readSeparated closing scan count text = .ok (items, rest)) :
    ∀ item ∈ items, ∃ before after, scan before = .ok (item, after) := by
  induction count generalizing text items with
  | zero => cases read
  | succ count ih =>
      obtain ⟨⟨first, after⟩, scanned, later⟩ := (bind_eq_ok_iff _ _ _).mp read
      dsimp only at later
      split at later
      · split at later
        · intro item member
          injection later with pair
          injection pair with same _
          rw [← same, List.mem_singleton] at member
          exact ⟨text, after, member ▸ scanned⟩
        · split at later
          · obtain ⟨⟨others, last⟩, others_read, same⟩ := (bind_eq_ok_iff _ _ _).mp later
            injection same with pair
            injection pair with same ends
            dsimp only at ends
            subst ends
            intro item member
            rw [← same] at member
            rcases List.mem_cons.mp member with rfl | inside
            · exact ⟨text, after, scanned⟩
            · exact ih _ _ others_read item inside
          · cases later
      · cases later

/-- Every item of a container was scanned from some text. -/
theorem readItems_from {α : Type} (closing : Char) (scan : PyText → Except Raised (α × PyText))
    (text rest : PyText) (items : List α) (read : readItems closing scan text = .ok (items, rest)) :
    ∀ item ∈ items, ∃ before after, scan before = .ok (item, after) := by
  unfold readItems at read
  dsimp only at read
  split at read
  · injection read with pair
    injection pair with same _
    intro item member
    rw [← same] at member
    exact absurd member List.not_mem_nil
  · exact readSeparated_from closing scan _ _ rest items read

/-- An assignment adds its own item only. -/
theorem mem_of_assignItem (key : PyText) (value : Value φ) (items : List (PyText × Value φ))
    (item : PyText × Value φ) (member : item ∈ assignItem key value items) :
    item = (key, value) ∨ item ∈ items := by
  induction items with
  | nil => exact .inl (List.mem_singleton.mp member)
  | cons head items ih =>
      simp only [assignItem] at member
      split at member
      · exact (List.mem_cons.mp member).imp_right (List.mem_cons_of_mem head)
      · rcases List.mem_cons.mp member with rfl | old
        · exact .inr List.mem_cons_self
        · exact (ih old).imp_right (List.mem_cons_of_mem head)

/-- Assignments add their own items only. -/
theorem mem_of_foldl_assignItem (members items : List (PyText × Value φ)) (item : PyText × Value φ)
    (member : item ∈ members.foldl (fun items member => assignItem member.1 member.2 items) items) :
    item ∈ items ∨ item ∈ members := by
  induction members generalizing items with
  | nil => exact .inl member
  | cons first members ih =>
      rcases ih _ member with inside | later
      · rcases mem_of_assignItem first.1 first.2 items item inside with same | old
        · exact .inr (same ▸ List.mem_cons_self)
        · exact .inl old
      · exact .inr (List.mem_cons_of_mem first later)

/-- A dictionary has no other items than its members. -/
theorem mem_of_dictOf (members : List (PyText × Value φ)) (item : PyText × Value φ)
    (member : item ∈ dictOf members) : item ∈ members :=
  (mem_of_foldl_assignItem members [] item member).resolve_left List.not_mem_nil

/-- The parts of a value that is read come from the nested scan. -/
theorem parts_of_readValue (nested : Option (PyText → Except Raised (Value φ × PyText)))
    (text rest : PyText) (value : Value φ)
    (read : readValue format nested text = .ok (value, rest)) :
    value.isContainer = false ∨ ∃ scan, nested = some scan ∧
      ∀ part ∈ value.parts, ∃ before after, scan before = .ok (part, after) := by
  unfold readValue at read
  split at read
  · split at read
    · injection read with pair
      injection pair with same _
      exact .inl (same ▸ rfl)
    · cases read
  · cases nested with
    | none => cases read
    | some scan =>
        obtain ⟨⟨members, after⟩, listed, same⟩ := (bind_eq_ok_iff _ _ _).mp read
        injection same with pair
        injection pair with same _
        refine .inr ⟨scan, rfl, ?_⟩
        rw [← same]
        intro part inside
        obtain ⟨member, kept, rfl⟩ := List.mem_map.mp inside
        obtain ⟨before, after, scanned⟩ :=
          readItems_from _ _ _ _ _ listed member (mem_of_dictOf members member kept)
        obtain ⟨⟨key, start⟩, _, found⟩ := (bind_eq_ok_iff _ _ _).mp scanned
        obtain ⟨⟨value, last⟩, scanned, same⟩ := (bind_eq_ok_iff _ _ _).mp found
        injection same with pair
        injection pair with same _
        exact ⟨start, last, same ▸ scanned⟩
  · cases nested with
    | none => cases read
    | some scan =>
        obtain ⟨⟨items, after⟩, listed, same⟩ := (bind_eq_ok_iff _ _ _).mp read
        injection same with pair
        injection pair with same _
        refine .inr ⟨scan, rfl, ?_⟩
        rw [← same]
        exact readItems_from _ _ _ _ _ listed
  · left
    split at read
    · rename_i found
      injection read with same
      rw [same] at found
      obtain ⟨constant, member, taken⟩ := List.exists_of_findSome?_eq_some found
      dsimp only at taken
      split at taken
      · injection taken with pair
        injection pair with same _
        rw [← same]
        simp only [constants, List.map_cons, List.map_nil, List.cons_append, List.nil_append,
          List.mem_cons, List.not_mem_nil, or_false] at member
        rcases member with rfl | rfl | rfl | rfl | rfl | rfl <;> rfl
      · cases taken
    · unfold readNumber at read
      dsimp only at read
      split at read
      · cases read
      · split at read
        · split at read
          · cases read
          · injection read with pair
            injection pair with same _
            exact same ▸ rfl
        · injection read with pair
          injection pair with same _
          exact same ▸ rfl

theorem parts_of_isContainer (value : Value φ) (plain : value.isContainer = false) :
    value.parts = [] := by
  cases value with
  | list items => exact Bool.noConfusion plain
  | dict items => exact Bool.noConfusion plain
  | _ => rfl

/-- A short value without parts fits every limit. -/
theorem fits_of_isContainer (limit : ℕ) (value : Value φ) (short : value.isShort = true)
    (plain : value.isContainer = false) : Fits limit value := by
  cases limit with
  | zero => exact ⟨short, plain⟩
  | succ limit =>
      refine ⟨short, ?_⟩
      intro part member
      rw [parts_of_isContainer value plain] at member
      exact absurd member List.not_mem_nil

/-- The reader refuses every written integer that is not short. -/
theorem scanOnce_long (limit : ℕ) (value : Value φ) (long : ¬value.isShort = true) (rest : PyText)
    (closed : Closed rest) :
    scanOnce format limit (symbols (dumps format value) ++ rest) = .error .valueError := by
  cases value with
  | int value =>
      have refused (nested) :
          readValue format nested (symbols (writeInt value) ++ rest) = .error .valueError := by
        rw [readValue_writeInt_eq format nested value rest closed, if_pos]
        exact not_le.mp fun short => long (decide_eq_true short)
      cases limit with
      | zero => exact refused none
      | succ limit => exact refused (some (scanOnce format limit))
  | _ => exact absurd rfl long

/-- What is read of a dictionary with one plain value is that value. -/
theorem loads_dict_plain (limit : ℕ) (key : PyText) (value found : Value φ)
    (plain : value.isContainer = false)
    (read : loads format limit (symbols (dumps format (.dict [(key, value)]))) = .ok found) :
    found = .dict [(joined key, settle value)] := by
  cases limit with
  | zero =>
      have deep : loads format 0 (symbols (dumps format (.dict [(key, value)]))) =
          .error .recursionError := rfl
      rw [deep] at read
      cases read
  | succ limit =>
      by_cases short : value.isShort = true
      · have fits : Fits (limit + 1) (.dict [(key, value)] : Value φ) := by
          refine ⟨rfl, fun part member => ?_⟩
          rw [List.mem_singleton.mp member]
          exact fits_of_isContainer limit value short plain
        rw [loads_dumps format (limit + 1) _ fits] at read
        exact (Except.ok.inj read).symm
      · have raises := loads_dict_raises format limit key value [] .valueError
          fun rest closed => scanOnce_long format limit value short rest closed
        rw [raises] at read
        cases read

/-- The value of digits is bounded by their count. -/
theorem ofDigitChars_lt (digits : List Char) (start : ℕ)
    (all : ∀ char ∈ digits, char.isDigit = true) :
    Nat.ofDigitChars 10 digits start < (start + 1) * 10 ^ digits.length := by
  induction digits generalizing start with
  | nil => simp
  | cons char digits ih =>
      obtain ⟨digit, rest⟩ := List.forall_mem_cons.mp all
      have bound : char.toNat - '0'.toNat ≤ 9 := by
        have range := Char.isDigit_iff_toNat.mp digit
        have zero : '0'.toNat = 48 := rfl
        have nine : '9'.toNat = 57 := rfl
        omega
      rw [Nat.ofDigitChars_cons, List.length_cons, pow_succ]
      calc Nat.ofDigitChars 10 digits (10 * start + (char.toNat - '0'.toNat))
          < (10 * start + (char.toNat - '0'.toNat) + 1) * 10 ^ digits.length := ih _ rest
        _ ≤ ((start + 1) * 10) * 10 ^ digits.length := Nat.mul_le_mul_right _ (by omega)
        _ = (start + 1) * (10 ^ digits.length * 10) := by ring

/-- The whole part of a number has digits only. -/
theorem isDigitSymbol_of_wholeOf (text : PyText) :
    ∀ symbol ∈ (wholeOf text).1, isDigitSymbol symbol = true := by
  intro symbol member
  unfold wholeOf at member
  split at member
  · rw [List.mem_singleton.mp member]
    rfl
  · exact List.mem_takeWhile_imp member

/-- The integer of a numeral has no more digits than the numeral. -/
theorem length_toDigits_int (numeral : Numeral) (filled : numeral.whole ≠ [])
    (digits : ∀ symbol ∈ numeral.whole, isDigitSymbol symbol = true) :
    (Nat.toDigits 10 numeral.int.natAbs).length ≤ numeral.whole.length := by
  have all : ∀ char ∈ charsOf numeral.whole, char.isDigit = true := by
    intro char member
    obtain ⟨symbol, inside, same⟩ := List.mem_filterMap.mp member
    cases symbol with
    | scalar other =>
        cases same
        exact digits _ inside
    | surrogate unit => cases same
  have fewer : (charsOf numeral.whole).length ≤ numeral.whole.length := List.length_filterMap_le _ _
  have size : numeral.int.natAbs = Nat.ofDigitChars 10 (charsOf numeral.whole) 0 := by
    unfold Numeral.int
    dsimp only
    split <;> simp
  have bound := ofDigitChars_lt (charsOf numeral.whole) 0 all
  rw [zero_add, one_mul] at bound
  rw [size]
  exact Nat.toDigits_length 10 _ _ (List.length_pos_of_ne_nil filled)
    (bound.trans_le (Nat.pow_le_pow_right (by decide) fewer))

/-- Every integer that is read is short. -/
theorem isShort_of_readNumber (text rest : PyText) (value : Value φ)
    (read : readNumber format text = .ok (value, rest)) : value.isShort = true := by
  unfold readNumber at read
  dsimp only at read
  split at read
  · cases read
  · rename_i filled
    split at read
    · split at read
      · cases read
      · rename_i short
        cases read
        exact decide_eq_true ((length_toDigits_int _ filled
          (isDigitSymbol_of_wholeOf _)).trans (not_lt.mp short))
    · cases read
      rfl

/-- An integer that is read is short. -/
theorem isShort_of_readValue (nested : Option (PyText → Except Raised (Value φ × PyText)))
    (text rest : PyText) (value : Value φ)
    (read : readValue format nested text = .ok (value, rest)) : value.isShort = true := by
  unfold readValue at read
  split at read
  · split at read
    · cases read
      rfl
    · cases read
  · cases nested with
    | none => cases read
    | some scan =>
        obtain ⟨members, _, same⟩ := (bind_eq_ok_iff _ _ _).mp read
        cases same
        rfl
  · cases nested with
    | none => cases read
    | some scan =>
        obtain ⟨items, _, same⟩ := (bind_eq_ok_iff _ _ _).mp read
        cases same
        rfl
  · split at read
    · rename_i found
      cases read
      obtain ⟨constant, member, taken⟩ := List.exists_of_findSome?_eq_some found
      dsimp only at taken
      split at taken
      · cases taken
        simp only [constants, List.map_cons, List.map_nil, List.cons_append, List.nil_append,
          List.mem_cons, List.not_mem_nil, or_false] at member
        rcases member with rfl | rfl | rfl | rfl | rfl | rfl <;> rfl
      · cases taken
    · exact isShort_of_readNumber format _ rest value read

/-- A value that was read fits the limit. -/
theorem fits_of_scanOnce (limit : ℕ) (text rest : PyText) (value : Value φ)
    (read : scanOnce format limit text = .ok (value, rest)) : Fits limit value := by
  induction limit generalizing text rest value with
  | zero =>
      rcases parts_of_readValue format none text rest value read with plain | ⟨_, other, _⟩
      · exact ⟨isShort_of_readValue format none text rest value read, plain⟩
      · cases other
  | succ limit ih =>
      have short := isShort_of_readValue format _ text rest value read
      rcases parts_of_readValue format _ text rest value read with plain | ⟨scan, same, parts⟩
      · exact fits_of_isContainer _ value short plain
      · refine ⟨short, ?_⟩
        intro part member
        obtain ⟨before, after, scanned⟩ := parts part member
        rw [← Option.some.inj same] at scanned
        exact ih before after part scanned

/-- Every value that is read fits the limit of the reader. -/
theorem fits_of_loads (limit : ℕ) (text : PyText) (value : Value φ)
    (read : loads format limit text = .ok value) : Fits limit value := by
  obtain ⟨⟨scanned, rest⟩, found, same⟩ := (bind_eq_ok_iff _ _ _).mp read
  dsimp only at same
  split at same
  · injection same with same
    exact same ▸ fits_of_scanOnce format limit _ rest scanned found
  · cases same

end Reread

section Settling

variable {φ : Type}

/-- A property of all values holds if it passes from the parts of a value to the value. -/
theorem Value.parts_induction (holds : Value φ → Prop)
    (step : ∀ value, (∀ part ∈ value.parts, holds part) → holds value) (value : Value φ) :
    holds value := by
  refine @Value.rec φ holds (fun items => ∀ item ∈ items, holds item)
    (fun members => ∀ member ∈ members, holds member.2) (fun member => holds member.2)
    ?_ ?_ ?_ ?_ ?_ ?_ ?_ ?_ ?_ ?_ ?_ ?_ value
  · exact step .null fun _ member => absurd member List.not_mem_nil
  · exact fun value => step (.bool value) fun _ member => absurd member List.not_mem_nil
  · exact fun value => step (.int value) fun _ member => absurd member List.not_mem_nil
  · exact fun value => step (.float value) fun _ member => absurd member List.not_mem_nil
  · exact fun value => step (.text value) fun _ member => absurd member List.not_mem_nil
  · exact fun items all => step (.list items) all
  · intro items all
    apply step (.dict items)
    intro part member
    obtain ⟨item, listed, rfl⟩ := List.mem_map.mp member
    exact all item listed
  · exact fun _ member => absurd member List.not_mem_nil
  · exact fun first rest head tail => List.forall_mem_cons.mpr ⟨head, tail⟩
  · exact fun _ member => absurd member List.not_mem_nil
  · exact fun first rest head tail => List.forall_mem_cons.mpr ⟨head, tail⟩
  · exact fun _ _ holds => holds

/-- Assignments keep one item for each key. -/
theorem nodup_foldl_assignItem (members items : List (PyText × Value φ))
    (once : (items.map Prod.fst).Nodup) :
    ((members.foldl (fun items member => assignItem member.1 member.2 items) items).map
      Prod.fst).Nodup := by
  induction members generalizing items with
  | nil => exact once
  | cons member members ih =>
      apply ih
      exact ((⟨items, once⟩ : Dict PyText (Value φ)).set member.1 member.2).nodup

/-- Assignments of new keys append their items. -/
theorem foldl_assignItem_of_nodup (members items : List (PyText × Value φ))
    (once : ((items ++ members).map Prod.fst).Nodup) :
    members.foldl (fun items member => assignItem member.1 member.2 items) items =
      items ++ members := by
  induction members generalizing items with
  | nil => exact (List.append_nil items).symm
  | cons member members ih =>
      have new : member.1 ∉ items.map Prod.fst := by
        intro known
        rw [List.map_append, List.nodup_append] at once
        exact once.2.2 member.1 known member.1 List.mem_cons_self rfl
      have appended : items ++ member :: members = (items ++ [member]) ++ members := by simp
      rw [List.foldl_cons, assignItem_of_new _ _ _ new, ih _ (appended ▸ once), ← appended]

/-- Members with keys of their own are the items. -/
theorem dictOf_of_nodup (members : List (PyText × Value φ)) (once : (members.map Prod.fst).Nodup) :
    dictOf members = members :=
  foldl_assignItem_of_nodup members [] once

/-- A dictionary has one item for each key. -/
theorem nodup_dictOf (members : List (PyText × Value φ)) : ((dictOf members).map Prod.fst).Nodup :=
  nodup_foldl_assignItem members [] List.nodup_nil

/-- The parts of a settled value are the settled parts. -/
theorem parts_settle (value part : Value φ) (member : part ∈ (settle value).parts) :
    ∃ original ∈ value.parts, part = settle original := by
  cases value with
  | list items =>
      rw [settle, settleItems_eq_map] at member
      obtain ⟨original, listed, same⟩ := List.mem_map.mp member
      exact ⟨original, listed, same.symm⟩
  | dict items =>
      rw [settle, settleMembers_eq_map] at member
      obtain ⟨item, listed, rfl⟩ := List.mem_map.mp member
      obtain ⟨⟨key, original⟩, inside, rfl⟩ := List.mem_map.mp (mem_of_dictOf _ item listed)
      exact ⟨original, List.mem_map_of_mem inside, rfl⟩
  | _ => exact absurd member List.not_mem_nil

theorem isContainer_settle (value : Value φ) : (settle value).isContainer = value.isContainer := by
  cases value <;> rfl

theorem isShort_settle (value : Value φ) : (settle value).isShort = value.isShort := by
  cases value <;> rfl

/-- A settled value fits the limit that the value fits. -/
theorem fits_settle (limit : ℕ) (value : Value φ) (fits : Fits limit value) :
    Fits limit (settle value) := by
  induction limit generalizing value with
  | zero => exact ⟨(isShort_settle value).trans fits.1, (isContainer_settle value).trans fits.2⟩
  | succ limit ih =>
      refine ⟨(isShort_settle value).trans fits.1, ?_⟩
      intro part member
      obtain ⟨original, listed, rfl⟩ := parts_settle value part member
      exact ih original (fits.2 original listed)

/-- A dictionary of settled members with keys of their own is settled. -/
theorem settle_dict (items : List (PyText × Value φ)) (once : (items.map Prod.fst).Nodup)
    (settled : ∀ item ∈ items, settleMember item = item) : settle (.dict items) = .dict items := by
  have same : items.map settleMember = items := by
    conv_rhs => rw [← List.map_id items]
    exact List.map_congr_left settled
  rw [settle, settleMembers_eq_map, same, dictOf_of_nodup items once]

/-- There is nothing left to settle in a settled value. -/
theorem settle_settle (value : Value φ) : settle (settle value) = settle value := by
  induction value using Value.parts_induction with
  | step value ih =>
      cases value with
      | text value => rw [settle, settle, joined_joined]
      | list items =>
          rw [settle, settle, settleItems_eq_map, settleItems_eq_map, List.map_map]
          congr 1
          exact List.map_congr_left ih
      | dict items =>
          rw [settle, settleMembers_eq_map]
          apply settle_dict _ (nodup_dictOf _)
          intro item member
          obtain ⟨⟨key, original⟩, listed, rfl⟩ := List.mem_map.mp (mem_of_dictOf _ item member)
          have same := ih original (List.mem_map_of_mem listed)
          simp only [settleMember, joined_joined, same]
      | _ => rfl

/-- No text of a value has a split pair of surrogates, and its keys are different. -/
inductive Whole : Value φ → Prop where
  | plain (value : Value φ) (single : value.isContainer = false)
      (unpaired : ∀ text, value = .text text → Unpaired text) : Whole value
  | list (items : List (Value φ)) (all : ∀ item ∈ items, Whole item) : Whole (.list items)
  | dict (items : List (PyText × Value φ)) (once : (items.map Prod.fst).Nodup)
      (keys : ∀ item ∈ items, Unpaired item.1) (all : ∀ item ∈ items, Whole item.2) :
      Whole (.dict items)

/-- A whole value is settled. -/
theorem settle_of_whole (value : Value φ) (whole : Whole value) : settle value = value := by
  induction whole with
  | plain value single unpaired =>
      cases value with
      | text text => rw [settle, joined_of_unpaired text (unpaired text rfl)]
      | list items => exact Bool.noConfusion single
      | dict items => exact Bool.noConfusion single
      | _ => rfl
  | list items _ ih =>
      have same : items.map settle = items := by
        conv_rhs => rw [← List.map_id items]
        exact List.map_congr_left ih
      rw [settle, settleItems_eq_map, same]
  | dict items once keys _ ih =>
      apply settle_dict items once
      intro item member
      obtain ⟨key, value⟩ := item
      have text := joined_of_unpaired key (keys _ member)
      have inner : settle value = value := ih _ member
      rw [settleMember, text, inner]

/-- There is nothing to join in a text without surrogates. -/
theorem joined_literal (text : String) : joined (literal text) = literal text := by
  unfold literal
  induction text.toList with
  | nil => rfl
  | cons char rest ih => rw [List.map_cons, joined, ih]

end Settling

end Library.JsonText
