/-
This file proves that the JSON reader gives back the texts of the writer. Two lone surrogates that make
a pair become one symbol on the way.
-/

import OperationsConsole.Library.JsonText

namespace Library.JsonText

section Units

/-- A written digit has its value. -/
theorem hexDigitValue_lowerHexDigit :
    ∀ value < 16, hexDigitValue (lowerHexDigit value) = some value := by
  decide

variable (code : ℕ) (unit : code < 0x10000)

include unit

/-- The digits of an escape tell its unit. -/
theorem readUnit_escape :
    readUnit (lowerHexDigit (code / 4096)) (lowerHexDigit (code / 256 % 16))
      (lowerHexDigit (code / 16 % 16)) (lowerHexDigit (code % 16)) = some code := by
  unfold readUnit
  rw [hexDigitValue_lowerHexDigit _ (by omega), hexDigitValue_lowerHexDigit _ (by omega),
    hexDigitValue_lowerHexDigit _ (by omega), hexDigitValue_lowerHexDigit _ (by omega)]
  simp only [Option.bind_eq_bind, Option.bind_some, Option.some.injEq]
  omega

/-- An escaped code unit is read as one unit. -/
theorem readPieces_escape (rest : PyText) :
    readPieces ((escape code).map Symbol.scalar ++ rest) =
      (readPieces rest).map fun read => (.unit code :: read.1, read.2) := by
  simp only [escape, List.map_cons, List.map_nil, List.cons_append, List.nil_append]
  rw [readPieces, readUnit_escape code unit]
  cases readPieces rest <;> rfl

end Units

section Pieces

/-- The reader sees a written symbol as these pieces. -/
def piecesOf : Symbol → List Piece
  | .scalar char =>
      if (shortEscapes.lookup char).isSome || isPrintable char then [.symbol (.scalar char)]
      else if char.toNat < 0x10000 then [.unit char.toNat]
      else [.unit (highUnit char), .unit (lowUnit char)]
  | .surrogate unit => [.unit (0xd800 + unit)]

theorem char_toNat_lt (char : Char) : char.toNat < 0x110000 := by
  rcases char.valid with below | above
  · exact Nat.lt_trans below (by decide)
  · exact above.2

/-- Every short escape is read as its symbol. -/
theorem unescape_shortEscapes : ∀ pair ∈ shortEscapes,
    unescape pair.2 = some pair.1 ∧ pair.2 ≠ 'u' := by
  decide

/-- A short escape is one symbol. -/
theorem readPieces_short (char name : Char) (short : shortEscapes.lookup char = some name)
    (rest : PyText) :
    readPieces (.scalar '\\' :: .scalar name :: rest) =
      (readPieces rest).map fun read => (.symbol (.scalar char) :: read.1, read.2) := by
  obtain ⟨before, after, split, _⟩ := List.lookup_eq_some_iff.mp short
  have member : (char, name) ∈ shortEscapes := by
    rw [split]
    exact List.mem_append_right before List.mem_cons_self
  obtain ⟨known, other⟩ := unescape_shortEscapes _ member
  rw [readPieces.eq_4 name rest fun _ _ _ _ _ _ same => other same, known]
  cases readPieces rest <;> rfl

/-- A printable symbol without an escape is one symbol. -/
theorem readPieces_plain (char : Char) (long : shortEscapes.lookup char = none)
    (printable : isPrintable char = true) (rest : PyText) :
    readPieces (.scalar char :: rest) =
      (readPieces rest).map fun read => (.symbol (.scalar char) :: read.1, read.2) := by
  have quote : char ≠ '"' := by
    intro same
    rw [same] at long
    exact absurd long (by decide)
  have slash : char ≠ '\\' := by
    intro same
    rw [same] at long
    exact absurd long (by decide)
  have blank : ¬char < ' ' := by
    simp only [isPrintable, Bool.and_eq_true, decide_eq_true_eq] at printable
    exact Char.not_lt.mpr printable.1
  rw [readPieces.eq_5 _ _ quote (fun _ _ _ _ _ _ same => slash same) fun _ _ _ same => slash same,
    if_neg (not_or.mpr ⟨slash, blank⟩)]
  cases readPieces rest <;> rfl

/-- A written symbol is read as its pieces. -/
theorem readPieces_writeSymbol (symbol : Symbol) (rest : PyText) :
    readPieces ((writeSymbol symbol).map Symbol.scalar ++ rest) =
      (readPieces rest).map fun read => (piecesOf symbol ++ read.1, read.2) := by
  cases symbol with
  | surrogate unit =>
      rw [writeSymbol, readPieces_escape _ (by omega)]
      rfl
  | scalar char =>
      have bound := char_toNat_lt char
      cases found : shortEscapes.lookup char with
      | some name => simpa [writeSymbol, piecesOf, found] using readPieces_short char name found rest
      | none =>
          by_cases printable : isPrintable char = true
          · simpa [writeSymbol, piecesOf, found, printable] using
              readPieces_plain char found printable rest
          · by_cases small : char.toNat < 0x10000
            · simpa [writeSymbol, piecesOf, found, printable, small] using
                readPieces_escape _ small rest
            · have pair := readPieces_escape (highUnit char) (by unfold highUnit; omega)
                ((escape (lowUnit char)).map Symbol.scalar ++ rest)
              rw [readPieces_escape (lowUnit char) (by unfold lowUnit; omega), Option.map_map] at pair
              simpa [writeSymbol, piecesOf, found, printable, small, Function.comp_def] using pair

/-- The reader sees a written text up to its closing quote. -/
theorem readPieces_writeText (text rest : PyText) :
    readPieces ((text.flatMap writeSymbol).map Symbol.scalar ++ .scalar '"' :: rest) =
      some (text.flatMap piecesOf, rest) := by
  induction text with
  | nil => rfl
  | cons symbol later ih =>
      rw [List.flatMap_cons, List.map_append, List.append_assoc, readPieces_writeSymbol, ih]
      rfl

end Pieces

section Joining

/-- Two lone surrogates that make a pair become one symbol. -/
def joined : PyText → PyText
  | [] => []
  | .scalar char :: rest => .scalar char :: joined rest
  | .surrogate high :: .surrogate low :: rest =>
      if isHigh (0xd800 + high) && isLow (0xd800 + low) then
        pairSymbol (0xd800 + high) (0xd800 + low) :: joined rest
      else .surrogate high :: joined (.surrogate low :: rest)
  | .surrogate unit :: rest => .surrogate unit :: joined rest

/-- No character has the number of a surrogate. -/
theorem scalar_bounds (char : Char) :
    char.toNat < 0xd800 ∨ 0xe000 ≤ char.toNat ∧ char.toNat < 0x110000 := by
  rcases char.valid with below | above
  · exact .inl below
  · exact .inr ⟨above.1, above.2⟩

/-- The code unit of a character is the character. -/
theorem unitSymbol_scalar (char : Char) : unitSymbol char.toNat = .scalar char := by
  have bounds := scalar_bounds char
  unfold unitSymbol
  rw [dif_neg (by omega), Char.ofNat_toNat]

/-- The code unit of a surrogate is the surrogate. -/
theorem unitSymbol_surrogate (unit : Fin 2048) : unitSymbol (0xd800 + unit) = .surrogate unit := by
  unfold unitSymbol
  rw [dif_pos (by omega)]
  have same : 0xd800 + unit.val - 0xd800 = unit.val := by omega
  simp only [same]

section Pairs

variable (char : Char) (large : 0x10000 ≤ char.toNat)

include large

theorem isHigh_highUnit : isHigh (highUnit char) = true := by
  have bounds := scalar_bounds char
  unfold isHigh highUnit
  rw [Bool.and_eq_true, decide_eq_true_eq, decide_eq_true_eq]
  omega

omit large in
theorem isLow_lowUnit : isLow (lowUnit char) = true := by
  unfold isLow lowUnit
  rw [Bool.and_eq_true, decide_eq_true_eq, decide_eq_true_eq]
  omega

/-- The two units of a large character give the character back. -/
theorem pairSymbol_units : pairSymbol (highUnit char) (lowUnit char) = .scalar char := by
  have whole : 0x10000 + (highUnit char - 0xd800) * 1024 + (lowUnit char - 0xdc00) = char.toNat := by
    unfold highUnit lowUnit
    omega
  rw [pairSymbol, whole, Char.ofNat_toNat]

/-- The two units of a large character are joined. -/
theorem joinPieces_pair (rest : List Piece) :
    joinPieces (.unit (highUnit char) :: .unit (lowUnit char) :: rest) =
      .scalar char :: joinPieces rest := by
  rw [joinPieces, isHigh_highUnit char large, isLow_lowUnit char, pairSymbol_units char large]
  rfl

end Pairs

/-- A unit without a partner is a symbol of its own. -/
theorem joinPieces_unit (code : ℕ) (rest : List Piece)
    (apart : isHigh code = true → ∀ low later, rest = .unit low :: later → isLow low = false) :
    joinPieces (.unit code :: rest) = unitSymbol code :: joinPieces rest := by
  cases rest with
  | nil => rfl
  | cons next later =>
      cases next with
      | symbol value => rfl
      | unit low =>
          have single : ¬(isHigh code && isLow low) = true := by
            rw [Bool.and_eq_true]
            rintro ⟨high, isLow⟩
            exact absurd ((apart high low later rfl).symm.trans isLow) (by decide)
          rw [joinPieces, if_neg single]

theorem not_isHigh_scalar (char : Char) : isHigh char.toNat = false := by
  have bounds := scalar_bounds char
  simp only [isHigh, Bool.and_eq_false_iff, decide_eq_false_iff_not]
  omega

theorem not_isLow_scalar (char : Char) : isLow char.toNat = false := by
  have bounds := scalar_bounds char
  simp only [isLow, Bool.and_eq_false_iff, decide_eq_false_iff_not]
  omega

theorem not_isLow_highUnit (char : Char) (large : 0x10000 ≤ char.toNat) :
    isLow (highUnit char) = false := by
  have high := isHigh_highUnit char large
  simp only [isHigh, Bool.and_eq_true, decide_eq_true_eq] at high
  simp only [isLow, Bool.and_eq_false_iff, decide_eq_false_iff_not]
  omega

/-- The pieces of a scalar become this scalar, and they do not start with a low unit. -/
theorem joinPieces_scalar (char : Char) (rest : List Piece) :
    joinPieces (piecesOf (.scalar char) ++ rest) = .scalar char :: joinPieces rest ∧
      ∀ low later, piecesOf (.scalar char) ++ rest = .unit low :: later → isLow low = false := by
  rw [piecesOf]
  split_ifs with plain small
  · exact ⟨rfl, fun low later same => nomatch List.cons.inj same⟩
  · constructor
    · rw [List.singleton_append, joinPieces_unit _ _ fun high =>
        absurd (high.symm.trans (not_isHigh_scalar char)) (by decide), unitSymbol_scalar]
    · intro low later same
      injection same with head _
      injection head with code
      rw [← code, not_isLow_scalar]
  · constructor
    · exact joinPieces_pair char (Nat.le_of_not_lt small) rest
    · intro low later same
      injection same with head _
      injection head with code
      rw [← code, not_isLow_highUnit char (Nat.le_of_not_lt small)]

/-- The reader gives the text back, except for the surrogates that it joins. -/
theorem joinPieces_piecesOf (text : PyText) : joinPieces (text.flatMap piecesOf) = joined text := by
  induction text using joined.induct with
  | case1 => rfl
  | case2 char rest ih => rw [List.flatMap_cons, (joinPieces_scalar char _).1, ih, joined]
  | case3 high low rest pair ih =>
      have read : joinPieces (.unit (0xd800 + high) :: .unit (0xd800 + low) :: rest.flatMap piecesOf) =
          pairSymbol (0xd800 + high) (0xd800 + low) :: joinPieces (rest.flatMap piecesOf) := by
        rw [joinPieces, if_pos pair]
      rw [joined, if_pos pair, ← ih, ← read]
      rfl
  | case4 high low rest single ih =>
      have read : joinPieces (.unit (0xd800 + high) :: .unit (0xd800 + low) :: rest.flatMap piecesOf) =
          .surrogate high :: joinPieces (.unit (0xd800 + low) :: rest.flatMap piecesOf) := by
        rw [joinPieces, if_neg single, unitSymbol_surrogate]
      rw [joined, if_neg single, ← ih]
      exact read
  | case5 unit rest other ih =>
      have read : joinPieces (.unit (0xd800 + unit) :: rest.flatMap piecesOf) =
          unitSymbol (0xd800 + unit) :: joinPieces (rest.flatMap piecesOf) := by
        apply joinPieces_unit
        intro _ low later same
        cases rest with
        | nil => exact nomatch same
        | cons next rest =>
            cases next with
            | surrogate partner => exact absurd rfl (other partner rest)
            | scalar char =>
                rw [List.flatMap_cons] at same
                exact (joinPieces_scalar char _).2 low later same
      rw [unitSymbol_surrogate] at read
      rw [joined.eq_4 _ _ other, ← ih]
      exact read

/-- A written text is read again, up to its joined surrogates. -/
theorem readText_writeText (text rest : PyText) :
    readText ((text.flatMap writeSymbol).map Symbol.scalar ++ .scalar '"' :: rest) =
      some (joined text, rest) := by
  rw [readText, readPieces_writeText, Option.map_some, joinPieces_piecesOf]

end Joining

section Joined

/-- No high surrogate stands right before a low one. -/
def Unpaired : PyText → Prop
  | .surrogate high :: .surrogate low :: rest =>
      ¬(isHigh (0xd800 + high) && isLow (0xd800 + low)) = true ∧ Unpaired (.surrogate low :: rest)
  | _ :: rest => Unpaired rest
  | [] => True

/-- There is nothing to join in a text without pairs. -/
theorem joined_of_unpaired (text : PyText) (unpaired : Unpaired text) : joined text = text := by
  induction text using joined.induct with
  | case1 => rfl
  | case2 rest char ih =>
      rw [joined, ih]
      simpa [Unpaired] using unpaired
  | case3 high low rest pair ih =>
      rw [Unpaired] at unpaired
      exact absurd pair unpaired.1
  | case4 high low rest single ih =>
      rw [Unpaired] at unpaired
      rw [joined, if_neg single, ih unpaired.2]
  | case5 unit rest other ih =>
      rw [joined.eq_4 _ _ other, ih]
      cases rest with
      | nil => trivial
      | cons next rest =>
          cases next with
          | surrogate partner => exact absurd rfl (other partner rest)
          | scalar char => exact unpaired

/-- A leading surrogate stays, or it is joined to a scalar. -/
theorem joined_surrogate (unit : Fin 2048) (rest : PyText) :
    (∃ later, joined (.surrogate unit :: rest) = .surrogate unit :: later) ∨
      ∃ char later, joined (.surrogate unit :: rest) = .scalar char :: later := by
  cases rest with
  | nil => exact .inl ⟨[], rfl⟩
  | cons next rest =>
      cases next with
      | scalar char => exact .inl ⟨_, rfl⟩
      | surrogate low =>
          rw [joined]
          split
          · exact .inr ⟨_, _, rfl⟩
          · exact .inl ⟨_, rfl⟩

/-- No pair is left in a joined text. -/
theorem unpaired_joined (text : PyText) : Unpaired (joined text) := by
  induction text using joined.induct with
  | case1 => trivial
  | case2 char rest ih => exact ih
  | case3 high low rest pair ih =>
      rw [joined, if_pos pair]
      exact ih
  | case4 high low rest single ih =>
      rw [joined, if_neg single]
      rcases joined_surrogate low rest with ⟨later, same⟩ | ⟨char, later, same⟩
      · rw [same] at ih ⊢
        exact ⟨single, ih⟩
      · rw [same] at ih ⊢
        exact ih
  | case5 unit rest other ih =>
      rw [joined.eq_4 _ _ other]
      cases rest with
      | nil => trivial
      | cons next rest =>
          cases next with
          | surrogate partner => exact absurd rfl (other partner rest)
          | scalar char => exact ih

/-- A joined text stays as it is. -/
theorem joined_joined (text : PyText) : joined (joined text) = joined text :=
  joined_of_unpaired _ (unpaired_joined text)

end Joined

end Library.JsonText
