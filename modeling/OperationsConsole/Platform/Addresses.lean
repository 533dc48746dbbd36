/-
This file proves that a target that is joined from a base with a location is read without ambiguity,
and that it shows the address of its base.
-/

import OperationsConsole.Platform.Probes
import OperationsConsole.Redaction.TwoReadings

namespace OperationsConsole.Platform

open Library Targets
open Redaction hiding Probe urlunsplit

/-- A base that is not ambiguous is read as a location under one of two schemes. -/
structure WebBase (unicode : Unicode) (base scheme rest : Text) (parts : SplitResult) : Prop where
  clear : isAmbiguous unicode base = false
  split : partitionAt schemeSeparator base = some (scheme, rest)
  accepted : Accepted unicode base rest parts
  web : parts.scheme ∈ ["http".toList, "https".toList]
  named : parts.netloc ≠ []

/-- A path that a probe asks for. -/
structure ProbePath (path : Text) : Prop where
  rooted : (before (· == '?') path).head? = some '/'
  clear : '?' ∉ before (· == '?') path ∧ '#' ∉ before (· == '?') path
  query : '#' ∉ afterFirst (· == '?') path
  unsigned : '@' ∉ path
  clean : Clean path

/-- The path of a probe is not a query only. -/
theorem ProbePath.filled {path : Text} (isPath : ProbePath path) : before (· == '?') path ≠ [] := by
  intro empty
  have rooted := isPath.rooted
  rw [empty] at rooted
  cases rooted

/-- A scheme without a colon ends at the first separator. -/
theorem partitionAt_scheme (scheme rest : Text) (free : ':' ∉ scheme) :
    partitionAt schemeSeparator (scheme ++ schemeSeparator ++ rest) = some (scheme, rest) := by
  induction scheme with
  | nil => simp [partitionAt, schemeSeparator]
  | cons symbol tail ih =>
      rw [List.mem_cons, not_or] at free
      have other : ¬ schemeSeparator <+: symbol :: (tail ++ schemeSeparator ++ rest) := by
        intro starts
        exact free.1 (List.cons_prefix_cons.mp starts).1
      rw [List.cons_append, List.cons_append, partitionAt, if_neg other, ih free.2]
      rfl

/-- A URL with a scheme is written with the scheme first. -/
theorem urlunsplit_schemed (parts : SplitResult) (schemed : parts.scheme ≠ []) :
    urlunsplit parts = parts.scheme ++ ':' :: (unsplitLocation parts ++ marked '?' parts.query ++
      marked '#' parts.fragment) := by
  unfold urlunsplit
  dsimp only
  rw [if_neg schemed]
  simp only [List.append_assoc, List.cons_append]

section Targets

variable {unicode : Unicode} {base : Text} {parts : SplitResult}

/-- What a probe asks for under a base. -/
def targetOf (base : Text) (parts : SplitResult) (path : Text) : Text :=
  if path = [] then base else urlunsplit (joinedParts parts path)

/-- A target that is joined to a base is not empty. -/
theorem targetOf_filled (base : Text) (schemed : parts.scheme ≠ []) (path : Text)
    (given : base ≠ []) : targetOf base parts path ≠ [] := by
  unfold targetOf
  split
  · exact given
  · rw [urlunsplit_schemed (joinedParts parts path) schemed]
    intro empty
    cases (List.append_eq_nil_iff.mp empty).2

/-- A clear base becomes a target exactly if its scheme is one of the web. -/
theorem probeTarget_read (clear : isAmbiguous unicode base = false)
    (read : urlsplit unicode base = .ok parts) (path : Text) :
    probeTarget unicode base path =
      .ok (if parts.scheme ∈ ["http".toList, "https".toList] then some (targetOf base parts path)
        else none) := by
  unfold probeTarget joinProbePath targetOf
  rw [clear, read]
  by_cases web : parts.scheme ∈ ["http".toList, "https".toList]
  · by_cases empty : path = []
    · simp only [bind, Except.bind, if_pos web, if_pos empty]
      rfl
    · simp only [bind, Except.bind, if_pos web, if_neg empty]
      rfl
  · simp only [bind, Except.bind, if_neg web]
    rfl

/-- An ambiguous base becomes no target. -/
theorem probeTarget_ambiguous (ambiguous : isAmbiguous unicode base = true) (path : Text) :
    probeTarget unicode base path = .ok none := by
  unfold probeTarget
  rw [ambiguous]
  rfl

end Targets

section Bases

variable {unicode : Unicode} {base scheme rest : Text} {parts : SplitResult}

/-- A reading with no second meaning is not ambiguous. -/
theorem clear_of_accepted (split : partitionAt schemeSeparator base = some (scheme, rest))
    (accepted : Accepted unicode base rest parts) (plain : '\\' ∉ parts.netloc) :
    isAmbiguous unicode base = false := by
  obtain ⟨number, numbered⟩ := accepted.port
  have spaced : (base.any fun symbol => isSpace symbol || isControl symbol) = false := by
    rw [List.any_eq_false]
    intro symbol member
    rw [(accepted.clean symbol member).1, (accepted.clean symbol member).2]
    decide
  unfold isAmbiguous
  rw [spaced, split]
  have few := accepted.single
  simp [accepted.read, bind, Except.bind, numbered, pure, Except.pure, accepted.authority.symm,
    plain,
    accepted.shown, Nat.not_lt.mpr few]

variable (web : WebBase unicode base scheme rest parts)

include web

/-- There is no backslash in the location of a web address. -/
theorem WebBase.backslash_free : '\\' ∉ parts.netloc := by
  intro held
  have ambiguous := ambiguous_of_backslash unicode base (by
    unfold handAuthority
    rw [web.split]
    exact web.accepted.authority ▸ held)
  rw [web.clear] at ambiguous
  cases ambiguous

/-- The base is a scheme and a located rest. -/
theorem WebBase.located : ∃ name url, Located unicode base name url parts := by
  apply located_of_read unicode base web.accepted.clean parts web.accepted.read
  intro empty
  have schemes := web.web
  rw [empty] at schemes
  exact absurd schemes (by decide)

theorem WebBase.filled : base ≠ [] := by
  intro empty
  have split := web.split
  rw [empty] at split
  cases split

/-- Every web address becomes a target. -/
theorem WebBase.probeTarget (path : Text) :
    probeTarget unicode base path = .ok (some (targetOf base parts path)) := by
  rw [probeTarget_read web.clear web.accepted.read, if_pos web.web]

end Bases

section Joined

variable {unicode : Unicode} {base scheme rest : Text} {parts : SplitResult}
  (lowers : ∀ text : Text, (∀ symbol ∈ text, symbol.isLower = true) → unicode.lower text = text)
  (web : WebBase unicode base scheme rest parts) (path : Text) (isPath : ProbePath path)

include web

/-- These hold of the two schemes. -/
theorem WebBase.scheme_facts : isScheme parts.scheme = true ∧ parts.scheme ∈ usesNetloc ∧
    (∀ symbol ∈ parts.scheme, symbol.isLower = true) ∧ Clean parts.scheme := by
  have schemes : ∀ scheme ∈ ["http".toList, "https".toList], isScheme scheme = true ∧
      scheme ∈ usesNetloc ∧ scheme.all Char.isLower = true ∧
        (scheme.all fun symbol => !isSpace symbol && !isControl symbol) = true := by
    decide +kernel
  obtain ⟨named, used, lower, clean⟩ := schemes parts.scheme web.web
  exact ⟨named, used, List.all_eq_true.mp lower, clean_of_all _ clean⟩

/-- The parts of a web address are clean. -/
theorem WebBase.clean_parts : Clean parts.netloc ∧ Clean parts.path ∧ Clean parts.query ∧
    Clean parts.fragment := by
  obtain ⟨name, url, located⟩ := web.located
  have inside : url ⊆ base := by
    rw [located.whole]
    exact List.subset_append_of_subset_right name (List.subset_cons_self ':' url)
  have within := splitNetloc_subset url
  have pieces := splitRest_subset (unicode.lower name) (splitNetloc url).1 (splitNetloc url).2
  rw [← located.built] at pieces
  have netloc : parts.netloc = (splitNetloc url).1 := by rw [located.built]; rfl
  have clean := web.accepted.clean
  have tail : (splitNetloc url).2 ⊆ base := List.Subset.trans within.2 inside
  exact ⟨clean_subset clean (netloc ▸ List.Subset.trans within.1 inside),
    clean_subset clean (List.Subset.trans pieces.1 tail),
    clean_subset clean (List.Subset.trans pieces.2.1 tail),
    clean_subset clean (List.Subset.trans pieces.2.2 tail)⟩

include isPath

/-- The joined path begins with a slash. -/
theorem WebBase.joined_rooted : (joinedParts parts path).path.head? = some '/' := by
  obtain ⟨name, url, located⟩ := web.located
  have netloc : (splitNetloc url).1 ≠ [] := by
    have same : parts.netloc = (splitNetloc url).1 := by rw [located.built]; rfl
    exact same ▸ web.named
  have rooted := path_rooted (unicode.lower name) url netloc
  rw [← located.built] at rooted
  change (rstripSlashes parts.path ++ before (· == '?') path).head? = some '/'
  cases stripped : rstripSlashes parts.path with
  | nil => exact isPath.rooted
  | cons symbol later =>
      obtain ⟨tail, whole⟩ := rstripSlashes_start parts.path
      rw [stripped] at whole
      rcases rooted with empty | ⟨others, starts⟩
      · rw [empty] at whole
        cases whole
      · rw [starts] at whole
        injection whole with same _
        rw [same]
        rfl

include lowers

/-- A joined target is read as its joined parts. -/
theorem WebBase.restorable : Restorable unicode (joinedParts parts path) := by
  obtain ⟨name, url, located⟩ := web.located
  have free := path_free (unicode.lower name) (splitNetloc url).1 (splitNetloc url).2
  rw [← located.built] at free
  have netloc : parts.netloc = (splitNetloc url).1 := by rw [located.built]; rfl
  have scheme := web.scheme_facts
  have clean := web.clean_parts
  have stripped := (rstripSlashes_start parts.path).subset
  constructor
  · exact scheme.1
  · exact lowers parts.scheme scheme.2.2.1
  · exact scheme.2.1
  · exact netloc ▸ splitNetloc_free url
  · exact netloc ▸ located.brackets
  · exact netloc ▸ located.normal
  · exact fun empty => isPath.filled (List.append_eq_nil_iff.mp empty).2
  · exact fun _ => web.joined_rooted path isPath
  · change '?' ∉ rstripSlashes parts.path ++ _ ∧ '#' ∉ rstripSlashes parts.path ++ _
    rw [List.mem_append, List.mem_append, not_or, not_or]
    exact ⟨⟨fun member => free.1 (stripped member), isPath.clear.1⟩,
      ⟨fun member => free.2.1 (stripped member), isPath.clear.2⟩⟩
  · intro member
    rcases joinQueries_subset _ _ '#' member with first | second | sign
    · exact free.2.2 first
    · exact isPath.query second
    · exact absurd sign (by decide)
  · refine ⟨scheme.2.2.2, clean.1, ?_, ?_, clean.2.2.2⟩
    · change Clean (rstripSlashes parts.path ++ _)
      rw [clean_append]
      exact ⟨clean_subset clean.2.1 stripped, clean_subset isPath.clean (before_subset _ _)⟩
    · intro symbol member
      rcases joinQueries_subset _ _ symbol member with first | second | sign
      · exact clean.2.2.1 symbol first
      · exact isPath.clean symbol (afterFirst_subset _ _ second)
      · rw [sign]
        decide

/-- What follows the separator of a joined target. -/
def joinedRest (parts : SplitResult) : Text :=
  parts.netloc ++ (parts.path ++ marked '?' parts.query ++ marked '#' parts.fragment)

omit isPath lowers in
theorem WebBase.schemed : parts.scheme ≠ [] := by
  intro empty
  have named := web.scheme_facts.1
  rw [empty] at named
  exact absurd named (by decide)

omit isPath lowers in
/-- There is no colon in the scheme of a web address. -/
theorem WebBase.scheme_colon : ':' ∉ parts.scheme := by
  intro held
  have free := colon_not_in_scheme parts.scheme web.scheme_facts.1 ':' held
  exact absurd free (by decide)

omit lowers in
/-- A joined web address has its scheme and its separator first. -/
theorem WebBase.joined_text : urlunsplit (joinedParts parts path) =
    parts.scheme ++ schemeSeparator ++ joinedRest (joinedParts parts path) := by
  have located : (joinedParts parts path).netloc ≠ [] := web.named
  have rooted := web.joined_rooted path isPath
  rw [urlunsplit_schemed (joinedParts parts path) web.schemed, unsplitLocation, if_pos located,
    if_neg fun both => both.2 rooted]
  simp [schemeSeparator, joinedRest, joinedParts]

/-- A joined target is a base of its own, with the location of its base. -/
theorem WebBase.joined : WebBase unicode (urlunsplit (joinedParts parts path)) parts.scheme
    (joinedRest (joinedParts parts path)) (joinedParts parts path) := by
  have restorable := web.restorable lowers path isPath
  have split := partitionAt_scheme parts.scheme (joinedRest (joinedParts parts path))
    web.scheme_colon
  rw [← web.joined_text path isPath] at split
  obtain ⟨slash, rooted⟩ : ∃ later, (joinedParts parts path).path = '/' :: later :=
    List.head?_eq_some_iff.mp (web.joined_rooted path isPath)
  have authority : before isDelimiter (joinedRest (joinedParts parts path)) = parts.netloc := by
    unfold joinedRest
    rw [before_append _ _ _ restorable.free, rooted, List.cons_append, List.cons_append]
    exact List.append_nil parts.netloc
  have signs : '@' ∉ (joinedParts parts path).path ∧ '@' ∉ (joinedParts parts path).query := by
    constructor
    · intro member
      rcases List.mem_append.mp member with own | route
      · exact web.accepted.shown.1 ((rstripSlashes_start parts.path).subset own)
      · exact isPath.unsigned (before_subset _ _ route)
    · intro member
      rcases joinQueries_subset _ _ '@' member with own | route | sign
      · exact web.accepted.shown.2.1 own
      · exact isPath.unsigned (afterFirst_subset _ _ route)
      · exact absurd sign (by decide)
  have clean : Clean (urlunsplit (joinedParts parts path)) := by
    rw [urlunsplit_schemed (joinedParts parts path) web.schemed]
    exact clean_urlunsplit unicode _ restorable
  have accepted : Accepted unicode (urlunsplit (joinedParts parts path))
      (joinedRest (joinedParts parts path)) (joinedParts parts path) :=
    ⟨clean, urlsplit_urlunsplit unicode _ restorable, web.accepted.port, authority.symm,
      web.accepted.single, signs.1, signs.2, web.accepted.shown.2.2⟩
  exact ⟨clear_of_accepted split accepted web.backslash_free, split, accepted, web.web, web.named⟩

end Joined

end OperationsConsole.Platform
