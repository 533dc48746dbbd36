/-
This file reads regular expressions of symbols, groups, alternatives and repetitions. A word whose
signs are escaped is read as the pattern of that word, also inside of a quoted text.
-/

import OperationsConsole.Library.Rewriting

namespace Library

/-- A pattern of texts. The start is the place before the first symbol. -/
inductive TextPattern where
  | empty
  | start
  | any
  | symbol (symbol : Char)
  | follow (first second : TextPattern)
  | either (first second : TextPattern)
  | repeated (pattern : TextPattern)
  deriving DecidableEq

namespace TextPattern

/-- A pattern matches a part of a text that stands after another part. -/
inductive Matches : TextPattern → List Char → List Char → Prop where
  | empty (earlier : List Char) : Matches .empty earlier []
  | start : Matches .start [] []
  | any (earlier : List Char) (symbol : Char) (plain : symbol ≠ '\n') :
      Matches .any earlier [symbol]
  | symbol (earlier : List Char) (symbol : Char) : Matches (.symbol symbol) earlier [symbol]
  | follow (first second : TextPattern) (earlier part rest : List Char)
      (front : Matches first earlier part) (back : Matches second (earlier ++ part) rest) :
      Matches (.follow first second) earlier (part ++ rest)
  | first (first second : TextPattern) (earlier part : List Char)
      (one : Matches first earlier part) : Matches (.either first second) earlier part
  | second (first second : TextPattern) (earlier part : List Char)
      (other : Matches second earlier part) : Matches (.either first second) earlier part
  | done (pattern : TextPattern) (earlier : List Char) : Matches (.repeated pattern) earlier []
  | again (pattern : TextPattern) (earlier part rest : List Char)
      (one : Matches pattern earlier part)
      (more : Matches (.repeated pattern) (earlier ++ part) rest) :
      Matches (.repeated pattern) earlier (part ++ rest)

/-- A pattern matches a whole text. -/
def Whole (pattern : TextPattern) (text : List Char) : Prop := pattern.Matches [] text

/-- A pattern matches some part of a text. -/
def Found (pattern : TextPattern) (text : List Char) : Prop :=
  ∃ earlier part rest, text = earlier ++ part ++ rest ∧ pattern.Matches earlier part

/-- A word and what follows it. -/
def literal (word : List Char) (rest : TextPattern) : TextPattern :=
  word.foldr (fun symbol rest => .follow (.symbol symbol) rest) rest

section Rules

variable (first second : TextPattern) (earlier part : List Char)

theorem matches_empty_iff : Matches .empty earlier part ↔ part = [] := by
  constructor
  · intro found
    cases found
    rfl
  · intro same
    rw [same]
    exact .empty earlier

theorem matches_start_iff : Matches .start earlier part ↔ earlier = [] ∧ part = [] := by
  constructor
  · intro found
    cases found
    exact ⟨rfl, rfl⟩
  · intro same
    rw [same.1, same.2]
    exact .start

theorem matches_symbol_iff (symbol : Char) :
    Matches (.symbol symbol) earlier part ↔ part = [symbol] := by
  constructor
  · intro found
    cases found
    rfl
  · intro same
    rw [same]
    exact .symbol earlier symbol

/-- A pattern that follows another one matches after it. -/
theorem matches_follow_iff : Matches (.follow first second) earlier part ↔
    ∃ front rest, part = front ++ rest ∧ Matches first earlier front ∧
      Matches second (earlier ++ front) rest := by
  constructor
  · intro found
    cases found with
    | follow _ _ _ front rest one other => exact ⟨front, rest, rfl, one, other⟩
  · intro found
    obtain ⟨front, rest, same, one, other⟩ := found
    rw [same]
    exact .follow first second earlier front rest one other

theorem matches_either_iff : Matches (.either first second) earlier part ↔
    Matches first earlier part ∨ Matches second earlier part := by
  constructor
  · intro found
    cases found with
    | first _ _ _ _ one => exact .inl one
    | second _ _ _ _ other => exact .inr other
  · intro found
    rcases found with one | other
    · exact .first first second earlier part one
    · exact .second first second earlier part other

/-- A word matches itself, and then the rest of the pattern matches. -/
theorem matches_literal_iff (word : List Char) (rest : TextPattern) :
    Matches (literal word rest) earlier part ↔
      ∃ later, part = word ++ later ∧ Matches rest (earlier ++ word) later := by
  induction word generalizing earlier part with
  | nil => simp [literal]
  | cons symbol word ih =>
      change Matches (.follow (.symbol symbol) (literal word rest)) earlier part ↔ _
      rw [matches_follow_iff]
      constructor
      · intro found
        obtain ⟨front, tail, same, one, other⟩ := found
        obtain ⟨later, whole, matched⟩ := (ih _ _).mp other
        rw [(matches_symbol_iff _ _ _).mp one] at same matched
        rw [List.append_assoc] at matched
        exact ⟨later, by rw [same, whole]; rfl, matched⟩
      · intro found
        obtain ⟨later, same, matched⟩ := found
        refine ⟨[symbol], word ++ later, same, .symbol earlier symbol, ?_⟩
        refine (ih _ _).mpr ⟨later, rfl, ?_⟩
        rw [List.append_assoc]
        exact matched

/-- A word alone matches itself only. -/
theorem matches_word_iff (word : List Char) :
    Matches (literal word .empty) earlier part ↔ part = word := by
  rw [matches_literal_iff]
  constructor
  · intro found
    obtain ⟨later, same, ended⟩ := found
    rw [same, (matches_empty_iff _ _).mp ended, List.append_nil]
  · intro same
    exact ⟨[], by rw [same, List.append_nil], .empty _⟩

/-- A repetition of any symbols matches what stands on one line. -/
theorem matches_line_iff : Matches (.repeated .any) earlier part ↔ '\n' ∉ part := by
  constructor
  · intro found
    generalize shape : TextPattern.repeated .any = pattern at found
    induction found with
    | done => exact List.not_mem_nil
    | again pattern earlier part rest one more _ ih =>
        rw [TextPattern.repeated.injEq] at shape
        rw [← shape] at one
        cases one with
        | any _ symbol plain =>
            rw [List.singleton_append, List.mem_cons, not_or]
            exact ⟨Ne.symm plain, ih (by rw [shape])⟩
    | _ => cases shape
  · intro plain
    induction part generalizing earlier with
    | nil => exact .done .any earlier
    | cons symbol part ih =>
        rw [List.mem_cons, not_or] at plain
        exact .again .any earlier [symbol] part (.any earlier symbol (Ne.symm plain.1))
          (ih _ plain.2)

/-- Any symbols match every text without a line break. -/
theorem matches_rest_iff :
    Matches (.follow (.repeated .any) .empty) earlier part ↔ '\n' ∉ part := by
  rw [matches_follow_iff]
  constructor
  · intro found
    obtain ⟨front, rest, same, line, ended⟩ := found
    rw [same, (matches_empty_iff _ _).mp ended, List.append_nil]
    exact (matches_line_iff _ _).mp line
  · intro line
    exact ⟨part, [], (List.append_nil part).symm, (matches_line_iff _ _).mpr line, .empty _⟩

end Rules

end TextPattern

/-- A sign of a written pattern. -/
inductive PatternSign where
  | plain (symbol : Char)
  | any
  | start
  | star
  | bar
  | opening
  | closing

/-- A sign of repetitions, sets and ends, which are not read here. -/
def isUnread (symbol : Char) : Bool := ['[', '{', '+', '?', '$'].contains symbol

def isPatternSign (symbol : Char) : Bool :=
  ['\\', '.', '^', '*', '|', '(', ')'].contains symbol || isUnread symbol

def signOf (symbol : Char) : PatternSign :=
  if symbol = '.' then .any
  else if symbol = '^' then .start
  else if symbol = '*' then .star
  else if symbol = '|' then .bar
  else if symbol = '(' then .opening
  else if symbol = ')' then .closing
  else .plain symbol

/-- A symbol after a backslash stands for itself, except for letters and digits. -/
def isEscapable (symbol : Char) : Bool := decide (symbol.toNat < 128) && !symbol.isAlphanum

def patternSigns : List Char → Option (List PatternSign)
  | [] => some []
  | [symbol] => if symbol = '\\' ∨ isUnread symbol = true then none else some [signOf symbol]
  | symbol :: next :: rest =>
      if symbol = '\\' then
        if isEscapable next then (patternSigns rest).map (.plain next :: ·) else none
      else if isUnread symbol then none
      else (patternSigns (next :: rest)).map (signOf symbol :: ·)

/-- The branches of a group that are complete, and the parts of its last branch, newest first. -/
structure PatternGroup where
  branches : List TextPattern := []
  parts : List TextPattern := []

namespace PatternGroup

def branch (group : PatternGroup) : TextPattern :=
  group.parts.foldl (fun rest part => .follow part rest) .empty

def pattern (group : PatternGroup) : TextPattern :=
  group.branches.foldl (fun rest branch => .either branch rest) group.branch

def add (group : PatternGroup) (part : TextPattern) : PatternGroup :=
  { group with parts := part :: group.parts }

end PatternGroup

/-- A sign changes the innermost group. A repetition of a repetition is not read. -/
def readSign : List PatternGroup → PatternSign → Option (List PatternGroup)
  | [], _ => none
  | group :: outer, .plain symbol => some (group.add (.symbol symbol) :: outer)
  | group :: outer, .any => some (group.add .any :: outer)
  | group :: outer, .start => some (group.add .start :: outer)
  | group :: outer, .star =>
      match group.parts with
      | [] => none
      | .repeated _ :: _ => none
      | part :: parts => some ({ group with parts := .repeated part :: parts } :: outer)
  | group :: outer, .bar => some ({ branches := group.branch :: group.branches } :: outer)
  | groups, .opening => some ({} :: groups)
  | group :: next :: outer, .closing => some (next.add group.pattern :: outer)
  | [_], .closing => none

def readPattern (text : List Char) : Option TextPattern := do
  let signs ← patternSigns text
  match ← signs.foldlM readSign [{}] with
  | [group] => some group.pattern
  | _ => none

/-- The signs of a word are written after backslashes. -/
def escapeSigns (signs word : List Char) : List Char :=
  word.flatMap fun symbol => if signs.contains symbol then ['\\', symbol] else [symbol]

theorem patternSigns_cons (symbol : Char) (rest : List Char) (other : symbol ≠ '\\')
    (read : isUnread symbol = false) :
    patternSigns (symbol :: rest) = (patternSigns rest).map (signOf symbol :: ·) := by
  cases rest with
  | nil => simp [patternSigns, other, read]
  | cons next rest => rw [patternSigns, if_neg other, if_neg (by simp [read])]

/-- A text is read as the pattern of the group that its signs leave. -/
theorem readPattern_of_signs (text : List Char) (signs : List PatternSign) (group : PatternGroup)
    (pattern : TextPattern) (written : patternSigns text = some signs)
    (left : signs.foldlM readSign [{}] = some [group]) (same : group.pattern = pattern) :
    readPattern text = some pattern := by
  rw [readPattern, written]
  change (signs.foldlM readSign [{}]).bind _ = _
  rw [left, ← same]
  rfl

section Escapes

variable (signs : List Char) (covers : ∀ symbol, isPatternSign symbol = true → symbol ∈ signs)
  (escapable : ∀ symbol ∈ signs, isEscapable symbol = true)

include covers escapable

/-- The escaped symbols of a word are read as these symbols. -/
theorem patternSigns_escape (word rest : List Char) :
    patternSigns (escapeSigns signs word ++ rest) =
      (patternSigns rest).map (word.map PatternSign.plain ++ ·) := by
  induction word with
  | nil => simp [escapeSigns]
  | cons symbol word ih =>
      rw [escapeSigns, List.flatMap_cons, List.append_assoc]
      change patternSigns (_ ++ (escapeSigns signs word ++ rest)) = _
      by_cases sign : signs.contains symbol = true
      · rw [if_pos sign, List.cons_append, List.cons_append, List.nil_append, patternSigns,
          if_pos rfl, if_pos (escapable symbol (List.contains_iff_mem.mp sign)), ih, Option.map_map]
        rfl
      · have ordinary : isPatternSign symbol = false := by
          by_contra reserved
          exact sign (List.contains_iff_mem.mpr (covers symbol (by simpa using reserved)))
        rw [isPatternSign, Bool.or_eq_false_iff] at ordinary
        have apart : symbol ≠ '\\' ∧ signOf symbol = .plain symbol := by
          have none := ordinary.1
          simp only [List.contains_cons, List.contains_nil, Bool.or_false, Bool.or_eq_false_iff,
            beq_eq_false_iff_ne] at none
          obtain ⟨backslash, dot, caret, star, bar, opening, closing⟩ := none
          exact ⟨backslash, by simp [signOf, dot, caret, star, bar, opening, closing]⟩
        rw [if_neg sign, List.singleton_append]
        rw [patternSigns_cons symbol _ apart.1 ordinary.2, apart.2, ih, Option.map_map]
        rfl

end Escapes

/-- The symbols of a word are added to the innermost group. -/
theorem foldlM_plain (word : List Char) (group : PatternGroup) (outer : List PatternGroup) :
    (word.map PatternSign.plain).foldlM readSign (group :: outer) =
      some ({ group with parts := (word.map TextPattern.symbol).reverse ++ group.parts } ::
        outer) := by
  induction word generalizing group with
  | nil => rfl
  | cons symbol word ih =>
      rw [List.map_cons, List.foldlM_cons]
      change (word.map PatternSign.plain).foldlM readSign
        (group.add (.symbol symbol) :: outer) = _
      rw [ih, List.map_cons, List.reverse_cons, List.append_assoc]
      rfl

/-- A branch that ends in a word and other parts. -/
theorem branch_word (parts : List TextPattern) (word : List Char) (rest : TextPattern) :
    ((word.map TextPattern.symbol).reverse ++ parts).foldl
        (fun rest part => .follow part rest) rest =
      parts.foldl (fun rest part => .follow part rest) (TextPattern.literal word rest) := by
  rw [List.foldl_append, List.foldl_reverse, List.foldr_map]
  rfl

section Quotes

/-- What a symbol after a backslash stands for. -/
def escapedSymbol (symbol : Char) : Option Char :=
  if symbol = '\\' ∨ symbol = '"' then some symbol
  else if symbol = 'n' then some '\n'
  else if symbol = 't' then some '\t'
  else if symbol = 'r' then some '\r'
  else none

/-- The text up to the closing quote, and what follows it. -/
def readQuoted : List Char → Option (List Char × List Char)
  | [] => none
  | [symbol] => if symbol = '"' then some ([], []) else none
  | symbol :: next :: rest =>
      if symbol = '"' then some ([], next :: rest)
      else if symbol = '\n' then none
      else if symbol = '\\' then do
        let meant ← escapedSymbol next
        let read ← readQuoted rest
        return (meant :: read.1, read.2)
      else (readQuoted (next :: rest)).map fun read => (symbol :: read.1, read.2)

/-- The backslashes of a text are doubled. -/
def doubled (text : List Char) : List Char := replaceAll id ['\\'] ['\\', '\\'] text

theorem doubled_cons (symbol : Char) (text : List Char) :
    doubled (symbol :: text) =
      (if symbol = '\\' then ['\\', '\\'] else [symbol]) ++ doubled text := by
  unfold doubled
  rw [replaceAll_symbol, replaceAll_symbol, List.flatMap_cons]
  rfl

/-- The backslashes of two texts are doubled separately. -/
theorem doubled_append (text rest : List Char) :
    doubled (text ++ rest) = doubled text ++ doubled rest := by
  unfold doubled
  rw [replaceAll_symbol, replaceAll_symbol, replaceAll_symbol, List.flatMap_append]

/-- There is nothing to double in a text without a backslash. -/
theorem doubled_of_free (text : List Char) (free : '\\' ∉ text) : doubled text = text := by
  induction text with
  | nil => rfl
  | cons symbol text ih =>
      rw [List.mem_cons, not_or] at free
      rw [doubled_cons, if_neg (Ne.symm free.1), ih free.2, List.singleton_append]

/-- A text is read back from its quotes exactly if it has no quotes and no line breaks. -/
theorem readQuoted_doubled_iff (text rest later : List Char) :
    readQuoted (doubled text ++ '"' :: rest) = some (text, later) ↔
      ('"' ∉ text ∧ '\n' ∉ text) ∧ later = rest := by
  induction text with
  | nil =>
      change readQuoted ('"' :: rest) = _ ↔ _
      cases rest <;> simp [readQuoted, eq_comm]
  | cons symbol text ih =>
      obtain ⟨next, tail, coded⟩ : ∃ next tail, doubled text ++ '"' :: rest = next :: tail :=
        List.exists_cons_of_ne_nil (List.append_ne_nil_of_right_ne_nil _ (List.cons_ne_nil _ _))
      rw [doubled_cons, List.append_assoc]
      by_cases backslash : symbol = '\\'
      · have read : readQuoted ('\\' :: '\\' :: (doubled text ++ '"' :: rest)) =
            (readQuoted (doubled text ++ '"' :: rest)).map fun read =>
              ('\\' :: read.1, read.2) := by
          rw [readQuoted, if_neg (by decide), if_neg (by decide), if_pos rfl]
          cases readQuoted (doubled text ++ '"' :: rest) <;> rfl
        rw [if_pos backslash, backslash, List.cons_append, List.cons_append, List.nil_append, read]
        simp [← ih, Prod.ext_iff]
      · rw [if_neg backslash, List.singleton_append, coded, readQuoted, ← coded]
        by_cases quote : symbol = '"'
        · simp [quote]
        · by_cases lineBreak : symbol = '\n'
          · simp [lineBreak]
          · rw [if_neg quote, if_neg lineBreak, if_neg backslash]
            simp [← ih, Prod.ext_iff, Ne.symm quote, Ne.symm lineBreak]

end Quotes

end Library
