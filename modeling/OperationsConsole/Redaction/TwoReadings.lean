/-
This file compares the two readings of a target, by `urlsplit` and by hand.
Both see one address when the target is not ambiguous.
-/

import OperationsConsole.Redaction.AddressOnly

namespace OperationsConsole.Redaction

open Library

/-- A target is its scheme, a separator, and its rest, and no separator comes earlier. -/
structure Divides (target scheme rest : Text) : Prop where
  whole : target = scheme ++ schemeSeparator ++ rest
  first : ∀ index < scheme.length, ¬ schemeSeparator <+: target.drop index

theorem divides_of_partition (target scheme rest : Text)
    (split : partitionAt schemeSeparator target = some (scheme, rest)) :
    Divides target scheme rest :=
  ⟨partitionAt_text schemeSeparator target scheme rest split,
    partitionAt_first schemeSeparator target scheme rest split⟩

section Schemes

variable (target scheme rest : Text) (divides : Divides target scheme rest)

include divides

/-- The first colon of a target is the one of its separator or comes earlier. -/
theorem before_colon : before (· == ':') target = before (· == ':') scheme := by
  rw [divides.whole, List.append_assoc]
  by_cases held : ∃ symbol ∈ scheme, (symbol == ':') = true
  · exact (before_append_of_stop _ _ _ held).1
  · have free : ∀ symbol ∈ scheme, (symbol == ':') = false := by
      intro symbol member
      by_contra stops
      exact held ⟨symbol, member, by simpa using stops⟩
    rw [before_append _ _ _ free, before_of_free _ _ free]
    exact List.append_nil scheme

theorem contains_colon : target.contains ':' = true := by
  rw [divides.whole]
  simp [schemeSeparator]

/-- The scheme stands before the first colon, if it is one. -/
theorem splitScheme_eq (unicode : Unicode) : splitScheme unicode target =
    if isScheme (before (· == ':') scheme) then
      (unicode.lower (before (· == ':') scheme), afterFirst (· == ':') target)
    else ([], target) := by
  unfold splitScheme
  dsimp only
  rw [contains_colon target scheme rest divides, before_colon target scheme rest divides,
    Bool.true_and]

/-- After the colon of the separator come two slashes and the rest. -/
theorem afterFirst_separator (free : ':' ∉ scheme) :
    afterFirst (· == ':') target = ['/', '/'] ++ rest := by
  have none_stops : ∀ symbol ∈ scheme, (symbol == ':') = false := by
    intro symbol member
    rw [beq_eq_false_iff_ne]
    intro same
    exact free (same ▸ member)
  unfold afterFirst
  rw [divides.whole, List.append_assoc, fromFirst_append _ _ _ none_stops]
  rfl

/-- No location follows an earlier colon. -/
theorem no_slashes_after (held : ':' ∈ scheme) :
    ¬ ['/', '/'] <+: afterFirst (· == ':') target := by
  intro slashes
  have stops : ∃ symbol ∈ scheme, (symbol == ':') = true := ⟨':', held, rfl⟩
  have early : (before (· == ':') target).length < scheme.length := by
    rw [before_colon target scheme rest divides]
    have cut := congrArg List.length (before_append_fromFirst (· == ':') scheme)
    rw [List.length_append] at cut
    rcases fromFirst_cases (· == ':') scheme with none_left | ⟨symbol, tail, left, _⟩
    · rw [fromFirst, List.dropWhile_eq_nil_iff] at none_left
      simpa using none_left ':' held
    · rw [left, List.length_cons] at cut
      omega
  apply divides.first _ early
  rw [drop_before]
  unfold afterFirst at slashes
  rcases fromFirst_cases (· == ':') target with none_left | ⟨symbol, tail, left, stop⟩
  · rw [none_left] at slashes
    simp at slashes
  · rw [left] at slashes ⊢
    rw [beq_iff_eq] at stop
    rw [stop]
    exact (List.prefix_cons_inj ':').mpr slashes

/-- A target begins with two slashes exactly when its scheme does. -/
theorem slashes_iff : ['/', '/'] <+: target ↔ ['/', '/'] <+: scheme := by
  rw [divides.whole]
  match scheme with
  | [] => simp [schemeSeparator]
  | [symbol] => simp [schemeSeparator]
  | first :: second :: tail => simp

end Schemes

/-- The path of a rest ends at the first question mark or hash. -/
theorem path_eq (text : Text) : before (· == '?') (before (· == '#') text) =
    before (fun symbol => symbol == '#' || symbol == '?') text :=
  before_before (· == '?') text (· == '#')

/-- A path that begins in a text depends on what follows up to its own path. -/
theorem path_append (text first second : Text)
    (same : before (· == '?') (before (· == '#') first) =
      before (· == '?') (before (· == '#') second)) :
    before (· == '?') (before (· == '#') (text ++ first)) =
      before (· == '?') (before (· == '#') (text ++ second)) := by
  rw [path_eq, path_eq] at same ⊢
  by_cases held : ∃ symbol ∈ text, (symbol == '#' || symbol == '?') = true
  · rw [(before_append_of_stop _ _ first held).1, (before_append_of_stop _ _ second held).1]
  · have free : ∀ symbol ∈ text, (symbol == '#' || symbol == '?') = false := by
      intro symbol member
      rw [← Bool.not_eq_true]
      exact fun stops => held ⟨symbol, member, stops⟩
    rw [before_append _ _ _ free, before_append _ _ _ free, same]

/-- A rest is its authority with what follows. -/
theorem path_rest (rest : Text) : before (· == '?') (before (· == '#') rest) =
    before isDelimiter rest ++
      before (· == '?') (before (· == '#') (fromFirst isDelimiter rest)) := by
  have free : ∀ symbol ∈ before isDelimiter rest, (symbol == '#' || symbol == '?') = false := by
    intro symbol member
    have clear := before_free isDelimiter rest symbol member
    simp only [isDelimiter, Bool.or_eq_false_iff] at clear
    rw [clear.1.2, clear.2]
    rfl
  rw [path_eq, path_eq]
  conv_lhs => rw [← before_append_fromFirst isDelimiter rest]
  rw [before_append _ _ _ free]

section Readings

variable (unicode : Unicode)

/-- Two readings show one address. -/
structure SameAddress (first second : SplitResult) : Prop where
  scheme : first.scheme = second.scheme
  info : afterLast (· == '@') first.netloc = afterLast (· == '@') second.netloc
  path : first.path = second.path

theorem hostinfo_congr (first second : SplitResult)
    (info : afterLast (· == '@') first.netloc = afterLast (· == '@') second.netloc) :
    first.hostinfo = second.hostinfo := by
  unfold SplitResult.hostinfo
  rw [info]

/-- Alike addresses are shown alike. -/
theorem shownParts_congr (first second : SplitResult) (same : SameAddress first second)
    (number : Option Nat) : shownParts unicode first number = shownParts unicode second number := by
  have info := hostinfo_congr first second same.info
  have host : first.hostname unicode = second.hostname unicode := by
    unfold SplitResult.hostname
    rw [info]
  unfold shownParts
  rw [host, same.scheme, same.path]

theorem port_congr (first second : SplitResult) (same : SameAddress first second) :
    first.port = second.port := by
  unfold SplitResult.port
  rw [hostinfo_congr first second same.info]

/-- A reading without a location is shown as the marker. -/
theorem shownParts_empty (parts : SplitResult) (number : Option Nat) (empty : parts.netloc = []) :
    shownParts unicode parts number = redactedUrl := by
  unfold shownParts SplitResult.hostname SplitResult.hostinfo
  rw [empty]
  rfl

/-- A reading of a target has one of these forms, and the scheme decides which. -/
theorem reading_cases (target scheme rest : Text) (divides : Divides target scheme rest)
    (clean : Clean target) (parts : SplitResult) (read : urlsplit unicode target = .ok parts) :
    parts = if isScheme (before (· == ':') scheme) then
        if ':' ∈ scheme then
          splitRest (unicode.lower (before (· == ':') scheme)) []
            (afterFirst (· == ':') scheme ++ schemeSeparator ++ rest)
        else splitRest (unicode.lower scheme) (before isDelimiter rest) (fromFirst isDelimiter rest)
      else if ['/', '/'] <+: scheme then
        splitRest [] (before isDelimiter (scheme.drop 2 ++ schemeSeparator))
          (fromFirst isDelimiter (scheme.drop 2 ++ schemeSeparator) ++ rest)
      else splitRest [] [] (scheme ++ schemeSeparator ++ rest) := by
  have built := urlsplit_ok unicode target clean parts read
  rw [splitScheme_eq target scheme rest divides] at built
  split
  · rename_i named
    rw [if_pos named] at built
    dsimp only at built
    split
    · rename_i held
      have stops : ∃ symbol ∈ scheme, (symbol == ':') = true := ⟨':', held, rfl⟩
      have after : afterFirst (· == ':') target =
          afterFirst (· == ':') scheme ++ schemeSeparator ++ rest := by
        unfold afterFirst
        rw [divides.whole, List.append_assoc, (before_append_of_stop _ _ _ stops).2]
        rcases fromFirst_cases (· == ':') scheme with none_left | ⟨symbol, tail, left, _⟩
        · rw [fromFirst, List.dropWhile_eq_nil_iff] at none_left
          simpa using none_left ':' held
        · rw [left, List.cons_append, List.tail_cons, List.tail_cons, List.append_assoc]
      rw [built]
      unfold splitNetloc
      rw [if_neg (no_slashes_after target scheme rest divides held), after]
    · rename_i free
      have whole : before (· == ':') scheme = scheme := by
        apply before_of_free
        intro symbol member
        rw [beq_eq_false_iff_ne]
        intro same
        exact free (same ▸ member)
      rw [built, afterFirst_separator target scheme rest divides free, whole]
      rfl
  · rename_i unnamed
    rw [if_neg unnamed] at built
    dsimp only at built
    split
    · rename_i slashes
      have stops : ∃ symbol ∈ scheme.drop 2 ++ schemeSeparator, isDelimiter symbol = true :=
        ⟨'/', by simp [schemeSeparator], rfl⟩
      have dropped : target.drop 2 = scheme.drop 2 ++ schemeSeparator ++ rest := by
        have long : 2 ≤ scheme.length := slashes.length_le
        rw [divides.whole, List.append_assoc, List.drop_append_of_le_length long,
          List.append_assoc]
      have cut := before_append_of_stop isDelimiter _ rest stops
      rw [built]
      unfold splitNetloc
      rw [if_pos ((slashes_iff target scheme rest divides).mpr slashes), dropped]
      dsimp only
      rw [cut.1, cut.2]
    · rename_i plain
      rw [built, ← divides.whole]
      unfold splitNetloc
      rw [if_neg fun slashes => plain ((slashes_iff target scheme rest divides).mp slashes)]

/-- Two accepted targets with one scheme, host, and path show one address, or both the marker. -/
theorem same_shown (first second scheme firstRest secondRest : Text)
    (firstDivides : Divides first scheme firstRest) (secondDivides : Divides second scheme secondRest)
    (a b : SplitResult) (firstAccepted : Accepted unicode first firstRest a)
    (secondAccepted : Accepted unicode second secondRest b)
    (host : afterLast (· == '@') (before isDelimiter firstRest) =
      afterLast (· == '@') (before isDelimiter secondRest))
    (path : before (· == '?') (before (· == '#') (fromFirst isDelimiter firstRest)) =
      before (· == '?') (before (· == '#') (fromFirst isDelimiter secondRest))) :
    (a.netloc = [] ∧ b.netloc = []) ∨ SameAddress a b := by
  have one := reading_cases unicode first scheme firstRest firstDivides firstAccepted.clean a
    firstAccepted.read
  have other := reading_cases unicode second scheme secondRest secondDivides secondAccepted.clean b
    secondAccepted.read
  by_cases named : isScheme (before (· == ':') scheme) = true
  · rw [if_pos named] at one other
    by_cases held : ':' ∈ scheme
    · rw [if_pos held] at one other
      rw [one, other]
      exact .inl ⟨rfl, rfl⟩
    · rw [if_neg held] at one other
      refine .inr ⟨?_, ?_, ?_⟩
      · rw [one, other]
        rfl
      · rw [firstAccepted.authority, secondAccepted.authority, host]
      · rw [one, other]
        exact path
  · rw [if_neg named] at one other
    by_cases slashes : ['/', '/'] <+: scheme
    · rw [if_pos slashes] at one other
      have authority : before isDelimiter firstRest = before isDelimiter secondRest := by
        rw [← firstAccepted.authority, ← secondAccepted.authority, one, other]
        rfl
      refine .inr ⟨?_, ?_, ?_⟩
      · rw [one, other]
        rfl
      · rw [one, other]
        rfl
      · rw [one, other]
        apply path_append
        rw [path_rest firstRest, path_rest secondRest, authority, path]
    · rw [if_neg slashes] at one other
      rw [one, other]
      exact .inl ⟨rfl, rfl⟩

/-- An ambiguous target is shown as the marker. -/
theorem redactUrl_ambiguous (target : Text) (ambiguous : isAmbiguous unicode target = true) :
    redactUrl unicode target = .ok redactedUrl := by
  unfold redactUrl
  rw [if_pos ambiguous]
  rfl

/-- Two targets whose splits differ in secret parts only are shown alike. -/
theorem redactUrl_same (first second : Text) (a b : HandSplit) (one : handSplit first = some a)
    (other : handSplit second = some b) (firstClear : isAmbiguous unicode first = false)
    (secondClear : isAmbiguous unicode second = false) (scheme : a.scheme = b.scheme)
    (host : a.host = b.host) (path : a.path = b.path) :
    redactUrl unicode first = redactUrl unicode second := by
  unfold handSplit at one other
  rw [Option.map_eq_some_iff] at one other
  obtain ⟨⟨firstScheme, firstRest⟩, firstSplit, firstParts⟩ := one
  obtain ⟨⟨secondScheme, secondRest⟩, secondSplit, secondParts⟩ := other
  subst firstParts
  subst secondParts
  dsimp only at scheme host path
  subst scheme
  obtain ⟨reading, accepted⟩ := accepted_of_clear unicode first firstScheme firstRest firstSplit
    firstClear
  obtain ⟨otherReading, otherAccepted⟩ := accepted_of_clear unicode second firstScheme secondRest
    secondSplit secondClear
  obtain ⟨number, numbered⟩ := accepted.port
  obtain ⟨otherNumber, otherNumbered⟩ := otherAccepted.port
  rw [redactUrl_accepted unicode first firstScheme firstRest firstSplit firstClear reading accepted
    number numbered, redactUrl_accepted unicode second firstScheme secondRest secondSplit secondClear
    otherReading otherAccepted otherNumber otherNumbered]
  rcases same_shown unicode first second firstScheme firstRest secondRest
      (divides_of_partition _ _ _ firstSplit) (divides_of_partition _ _ _ secondSplit) reading
      otherReading accepted otherAccepted host path with ⟨empty, otherEmpty⟩ | same
  · rw [shownParts_empty unicode reading number empty,
      shownParts_empty unicode otherReading otherNumber otherEmpty]
  · rw [port_congr reading otherReading same, otherNumbered, Except.ok.injEq] at numbered
    rw [numbered, shownParts_congr unicode reading otherReading same]

/-- A target with a space or a control character is ambiguous. -/
theorem ambiguous_of_symbol (target : Text)
    (held : ∃ symbol ∈ target, isSpace symbol = true ∨ isControl symbol = true) :
    isAmbiguous unicode target = true := by
  by_contra clear
  obtain ⟨symbol, member, found⟩ := held
  have clean := clean_of_clear unicode target (by simpa using clear) symbol member
  rw [clean.1, clean.2] at found
  simp at found

/-- A target with a backslash in its location is ambiguous. -/
theorem ambiguous_of_backslash (target : Text) (held : '\\' ∈ handAuthority target) :
    isAmbiguous unicode target = true := by
  unfold isAmbiguous
  split
  · rfl
  · unfold handAuthority at held
    cases split : partitionAt schemeSeparator target with
    | none =>
        rw [split] at held
        simp only [Bool.or_eq_true, List.contains_eq_mem, decide_eq_true_eq]
        exact .inr held
    | some parts =>
        rw [split] at held
        dsimp only
        split
        · rfl
        · rename_i parsed _
          simp only [Bool.or_eq_true, List.contains_eq_mem, decide_eq_true_eq]
          by_cases same : before isDelimiter parts.2 = parsed.netloc
          · exact .inl (.inr (same ▸ held))
          · exact .inl (.inl (.inl same))

/-- A target that is read in two ways, or that `urlsplit` or its port rejects, is ambiguous. -/
theorem ambiguous_of_reading (target : Text) (separated : schemeSeparator <:+: target)
    (differs : ∀ parts number, urlsplit unicode target = .ok parts → parts.port = .ok number →
      parts.netloc ≠ handAuthority target) :
    isAmbiguous unicode target = true := by
  cases split : partitionAt schemeSeparator target with
  | none => exact absurd separated ((partitionAt_eq_none_iff _ _).mp split)
  | some parts =>
      by_contra clear
      obtain ⟨reading, accepted⟩ := accepted_of_clear unicode target parts.1 parts.2 split
        (by simpa using clear)
      obtain ⟨number, numbered⟩ := accepted.port
      apply differs reading number accepted.read numbered
      unfold handAuthority
      rw [split]
      exact accepted.authority

/-- What `redact_url` shows of every target is its address or the marker. -/
structure RevealsAddressOnly : Prop where
  shown : ∀ target, ∃ shown, redactUrl unicode target = .ok shown ∧
    (shown = redactedUrl ∨ ∀ symbol ∈ shown, symbol ≠ '@' ∧ symbol ≠ '?' ∧ symbol ≠ '#')
  same : ∀ first second a b, handSplit first = some a → handSplit second = some b →
    isAmbiguous unicode first = false → isAmbiguous unicode second = false →
      a.scheme = b.scheme → a.host = b.host → a.path = b.path →
        redactUrl unicode first = redactUrl unicode second
  differs : ∀ target parts, schemeSeparator <:+: target → urlsplit unicode target = .ok parts →
    parts.netloc ≠ handAuthority target → redactUrl unicode target = .ok redactedUrl
  rejected : ∀ target failure, schemeSeparator <:+: target →
    urlsplit unicode target = .error failure → redactUrl unicode target = .ok redactedUrl
  portRejected : ∀ target parts failure, schemeSeparator <:+: target →
    urlsplit unicode target = .ok parts → parts.port = .error failure →
      redactUrl unicode target = .ok redactedUrl
  unclean : ∀ target, (∃ symbol ∈ target, isSpace symbol = true ∨ isControl symbol = true) →
    redactUrl unicode target = .ok redactedUrl
  backslash : ∀ target, '\\' ∈ handAuthority target → redactUrl unicode target = .ok redactedUrl

/-- A redacted target reveals its address only. -/
theorem redactUrl_reveals : RevealsAddressOnly unicode := by
  constructor
  · intro target
    obtain ⟨shown, returned, either⟩ := redactUrl_unmarked unicode target
    refine ⟨shown, returned, ?_⟩
    rcases either with marker | clear
    · exact .inl marker
    · refine .inr fun symbol member => ?_
      simpa using clear symbol member
  · exact redactUrl_same unicode
  · intro target parts separated read differs
    apply redactUrl_ambiguous
    apply ambiguous_of_reading unicode target separated
    intro other number again _
    rw [read, Except.ok.injEq] at again
    rw [← again]
    exact differs
  · intro target failure separated read
    apply redactUrl_ambiguous
    apply ambiguous_of_reading unicode target separated
    intro parts number again
    rw [read] at again
    simp at again
  · intro target parts failure separated read port
    apply redactUrl_ambiguous
    apply ambiguous_of_reading unicode target separated
    intro other number again numbered
    rw [read, Except.ok.injEq] at again
    rw [← again, port] at numbered
    simp at numbered
  · intro target held
    exact redactUrl_ambiguous unicode target (ambiguous_of_symbol unicode target held)
  · intro target held
    exact redactUrl_ambiguous unicode target (ambiguous_of_backslash unicode target held)

end Readings

end OperationsConsole.Redaction
