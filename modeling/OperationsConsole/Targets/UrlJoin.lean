/-
This file embeds `join_probe_path` of `dashboard/platform_health.py` and the library's `urlunsplit`.
A joined target is read back as the parts that it was joined from.
-/

import OperationsConsole.Redaction.AddressOnly
import Mathlib.Data.List.DropRight

namespace OperationsConsole.Targets

open Library Redaction

/-- The library writes an empty location for these schemes. -/
def usesNetloc : List Text :=
  ["ftp", "http", "gopher", "nntp", "telnet", "imap", "wais", "file", "mms", "https", "shttp",
    "snews", "prospero", "rtsp", "rtsps", "rtspu", "rsync", "svn", "svn+ssh", "sftp", "nfs", "git",
    "git+ssh", "ws", "wss", "itms-services"].map String.toList

/-- The location and the path of a URL that is put together. -/
def unsplitLocation (parts : SplitResult) : Text :=
  if parts.netloc ≠ [] then
    let rooted := if parts.path ≠ [] ∧ parts.path.head? ≠ some '/' then '/' :: parts.path
      else parts.path
    ['/', '/'] ++ parts.netloc ++ rooted
  else if ['/', '/'] <+: parts.path then ['/', '/'] ++ parts.path
  else if parts.scheme ∈ usesNetloc ∧ (parts.path = [] ∨ parts.path.head? = some '/') then
    ['/', '/'] ++ parts.path
  else parts.path

/-- An empty part of a URL is written without its mark. -/
def marked (mark : Char) (text : Text) : Text := if text = [] then [] else mark :: text

def urlunsplit (parts : SplitResult) : Text :=
  let located := unsplitLocation parts
  let schemed := if parts.scheme = [] then located else parts.scheme ++ ':' :: located
  schemed ++ marked '?' parts.query ++ marked '#' parts.fragment

/-- The slashes at the end of a text are stripped. -/
def rstripSlashes (text : Text) : Text := text.rdropWhile (· == '/')

/-- The parts of a query that are not empty are joined. -/
def joinQueries (queries : List Text) : Text :=
  ['&'].intercalate (queries.filter fun query => query ≠ [])

def joinedParts (parts : SplitResult) (path : Text) : SplitResult where
  scheme := parts.scheme
  netloc := parts.netloc
  path := rstripSlashes parts.path ++ before (· == '?') path
  query := joinQueries [parts.query, afterFirst (· == '?') path]
  fragment := parts.fragment

def joinProbePath (unicode : Unicode) (base path : Text) : Except ValueError Text :=
  if path = [] then return base
  else do
    let parts ← urlsplit unicode base
    return urlunsplit (joinedParts parts path)

/-- The part of `_probe` that takes a given URL. No target is the fixed note of an unusable one. -/
def probeTarget (unicode : Unicode) (given path : Text) : Except ValueError (Option Text) := do
  if isAmbiguous unicode given then return none
  else
    let parts ← urlsplit unicode given
    if parts.scheme ∈ ["http".toList, "https".toList] then
      let target ← joinProbePath unicode given path
      return some target
    else return none

section Slashes

variable (text rest : Text)

theorem rstripSlashes_start : rstripSlashes text <+: text := List.rdropWhile_prefix _ text

/-- What is stripped from a text is slashes. -/
theorem rstripSlashes_rest : ∃ slashes, text = rstripSlashes text ++ slashes ∧
    ∀ symbol ∈ slashes, symbol = '/' := by
  refine ⟨text.rtakeWhile (· == '/'), List.rdropWhile_append_rtakeWhile.symm, ?_⟩
  intro symbol member
  simpa using List.mem_rtakeWhile_imp member

/-- A text of slashes only is stripped whole. -/
theorem rstripSlashes_slashes (slashes : ∀ symbol ∈ text, symbol = '/') :
    rstripSlashes text = [] := by
  unfold rstripSlashes
  rw [List.rdropWhile_eq_nil_iff]
  intro symbol member
  simp [slashes symbol member]

/-- A text that ends with a rest of its own is stripped in the rest. -/
theorem rstripSlashes_append (other : ∃ symbol ∈ rest, symbol ≠ '/') :
    rstripSlashes (text ++ rest) = text ++ rstripSlashes rest := by
  unfold rstripSlashes List.rdropWhile
  have stays : rest.reverse.dropWhile (· == '/') ≠ [] := by
    intro empty
    rw [List.dropWhile_eq_nil_iff] at empty
    obtain ⟨symbol, member, differs⟩ := other
    have same := empty symbol (List.mem_reverse.mpr member)
    exact differs (by simpa using same)
  rw [List.reverse_append, List.dropWhile_append, if_neg (by simpa using stays),
    List.reverse_append, List.reverse_reverse]

/-- The end of a text that is no slash keeps the text whole. -/
theorem rstripSlashes_keep (symbol : Char) (differs : symbol ≠ '/') :
    rstripSlashes (text ++ symbol :: rest) = text ++ symbol :: rstripSlashes rest := by
  by_cases other : ∃ symbol ∈ rest, symbol ≠ '/'
  · have whole := rstripSlashes_append (text ++ [symbol]) rest other
    simpa using whole
  · have slashes : ∀ symbol ∈ rest, symbol = '/' := by
      intro symbol member
      by_contra differs
      exact other ⟨symbol, member, differs⟩
    rw [rstripSlashes_append text (symbol :: rest) ⟨symbol, List.mem_cons_self, differs⟩,
      rstripSlashes_slashes rest slashes]
    unfold rstripSlashes List.rdropWhile
    have turned : ∀ symbol ∈ rest.reverse, (symbol == '/') = true := by
      intro symbol member
      simp [slashes symbol (List.mem_reverse.mp member)]
    rw [List.reverse_cons, List.dropWhile_append_of_pos turned, List.dropWhile_cons_of_neg
      (by simpa using differs)]
    rfl

end Slashes

section Reading

variable (unicode : Unicode)

/-- A text with a scheme is read by its location and its rest. -/
structure Located (target : Text) (name url : Text) (parts : SplitResult) : Prop where
  whole : target = name ++ ':' :: url
  named : isScheme name = true
  brackets : checkBrackets unicode (splitNetloc url).1 = .ok ()
  normal : checkNetloc unicode (splitNetloc url).1 = .ok ()
  built : parts = splitRest (unicode.lower name) (splitNetloc url).1 (splitNetloc url).2

theorem colon_not_in_scheme (name : Text) (named : isScheme name = true) :
    ∀ symbol ∈ name, (symbol == ':') = false := by
  intro symbol member
  unfold isScheme at named
  rw [Bool.and_eq_true, List.all_eq_true] at named
  have allowed := named.2 symbol member
  rw [beq_eq_false_iff_ne]
  intro same
  rw [same] at allowed
  exact absurd allowed (by decide)

/-- A name before a colon is the scheme. -/
theorem splitScheme_named (name url : Text) (named : isScheme name = true) :
    splitScheme unicode (name ++ ':' :: url) = (unicode.lower name, url) := by
  have free := colon_not_in_scheme name named
  have cut : before (· == ':') (name ++ ':' :: url) = name := by
    rw [before_append _ _ _ free]
    exact List.append_nil name
  have rest : afterFirst (· == ':') (name ++ ':' :: url) = url := by
    unfold afterFirst
    rw [fromFirst_append _ _ _ free]
    rfl
  unfold splitScheme
  dsimp only
  rw [cut, rest, named, if_pos]
  simp

/-- A location that passes both checks is read. -/
theorem urlsplit_named (name url : Text) (clean : Clean (name ++ ':' :: url))
    (named : isScheme name = true)
    (brackets : checkBrackets unicode (splitNetloc url).1 = .ok ())
    (normal : checkNetloc unicode (splitNetloc url).1 = .ok ()) :
    urlsplit unicode (name ++ ':' :: url) =
      .ok (splitRest (unicode.lower name) (splitNetloc url).1 (splitNetloc url).2) := by
  unfold urlsplit
  rw [strippedUrl_clean _ clean, splitScheme_named unicode name url named]
  dsimp only
  rw [brackets, normal]
  rfl

/-- A target with a scheme is its scheme, a colon, and a located rest. -/
theorem located_of_read (target : Text) (clean : Clean target) (parts : SplitResult)
    (read : urlsplit unicode target = .ok parts) (schemed : parts.scheme ≠ []) :
    ∃ name url, Located unicode target name url parts := by
  have built := urlsplit_ok unicode target clean parts read
  by_cases named : (target.contains ':' && isScheme (before (· == ':') target)) = true
  · have split : splitScheme unicode target =
        (unicode.lower (before (· == ':') target), afterFirst (· == ':') target) := by
      unfold splitScheme
      dsimp only
      rw [if_pos named]
    have colon : ':' ∈ target := by
      rw [Bool.and_eq_true, List.contains_eq_mem, decide_eq_true_eq] at named
      exact named.1
    have whole : target = before (· == ':') target ++ ':' :: afterFirst (· == ':') target := by
      unfold afterFirst
      rcases fromFirst_cases (· == ':') target with empty | ⟨symbol, rest, found, stops⟩
      · rw [fromFirst, List.dropWhile_eq_nil_iff] at empty
        simpa using empty ':' colon
      · have cut := before_append_fromFirst (· == ':') target
        rw [found, beq_iff_eq.mp stops] at cut
        rw [found, List.tail_cons, cut]
    rw [split] at built
    dsimp only at built
    have scheme : isScheme (before (· == ':') target) = true := (Bool.and_eq_true _ _ ▸ named).2
    refine ⟨before (· == ':') target, afterFirst (· == ':') target, whole, scheme, ?_, ?_, built⟩
    · cases checked : checkBrackets unicode (splitNetloc (afterFirst (· == ':') target)).1 with
      | ok _ => rfl
      | error failure =>
          unfold urlsplit at read
          rw [strippedUrl_clean target clean, split] at read
          dsimp only at read
          rw [checked] at read
          simp [bind, Except.bind] at read
    · cases checked : checkNetloc unicode (splitNetloc (afterFirst (· == ':') target)).1 with
      | ok _ => rfl
      | error failure =>
          unfold urlsplit at read
          rw [strippedUrl_clean target clean, split] at read
          dsimp only at read
          rw [checked] at read
          cases first : checkBrackets unicode
              (splitNetloc (afterFirst (· == ':') target)).1 with
          | ok _ =>
              rw [first] at read
              simp [bind, Except.bind] at read
          | error failure =>
              rw [first] at read
              simp [bind, Except.bind] at read
  · exfalso
    apply schemed
    rw [built]
    unfold splitScheme
    dsimp only
    rw [if_neg named]
    rfl

end Reading

section Locations

/-- A location holds no delimiter. -/
theorem splitNetloc_free (url : Text) : ∀ symbol ∈ (splitNetloc url).1,
    isDelimiter symbol = false := by
  unfold splitNetloc
  split
  · exact before_free isDelimiter _
  · intro symbol member
    exact absurd member List.not_mem_nil

theorem splitNetloc_subset (url : Text) : (splitNetloc url).1 ⊆ url ∧ (splitNetloc url).2 ⊆ url := by
  unfold splitNetloc
  split
  · exact ⟨List.Subset.trans (before_subset _ _) (List.drop_subset 2 url),
      List.Subset.trans (fromFirst_subset _ _) (List.drop_subset 2 url)⟩
  · exact ⟨List.nil_subset url, List.Subset.refl url⟩

/-- What follows a location begins with a delimiter. -/
theorem splitNetloc_rest (url : Text) (located : (splitNetloc url).1 ≠ []) :
    (splitNetloc url).2 = [] ∨
      ∃ symbol rest, (splitNetloc url).2 = symbol :: rest ∧ isDelimiter symbol = true := by
  unfold splitNetloc at located ⊢
  split at located
  · rename_i slashes
    rw [if_pos slashes]
    exact fromFirst_cases isDelimiter (url.drop 2)
  · exact absurd rfl located

/-- A location after two slashes is read up to its first delimiter. -/
theorem splitNetloc_slashes (netloc rest : Text)
    (free : ∀ symbol ∈ netloc, isDelimiter symbol = false)
    (ends : rest = [] ∨ ∃ symbol tail, rest = symbol :: tail ∧ isDelimiter symbol = true) :
    splitNetloc ('/' :: '/' :: (netloc ++ rest)) = (netloc, rest) := by
  have stops : before isDelimiter rest = [] ∧ fromFirst isDelimiter rest = rest := by
    rcases ends with empty | ⟨symbol, tail, starts, delimiter⟩
    · rw [empty]
      exact ⟨rfl, rfl⟩
    · rw [starts]
      unfold before fromFirst
      simp [delimiter]
  unfold splitNetloc
  rw [if_pos (by simp)]
  dsimp only [List.drop]
  rw [before_append _ _ _ free, fromFirst_append _ _ _ free, stops.1, stops.2, List.append_nil]

/-- A text without two slashes first has no location. -/
theorem splitNetloc_plain (url : Text) (plain : ¬ ['/', '/'] <+: url) :
    splitNetloc url = ([], url) := if_neg plain

/-- The parts of a rest are restored from it. -/
theorem splitRest_marked (scheme netloc path query fragment : Text)
    (pathQuery : '?' ∉ path) (pathFragment : '#' ∉ path) (queryFragment : '#' ∉ query) :
    splitRest scheme netloc (path ++ marked '?' query ++ marked '#' fragment) =
      ⟨scheme, netloc, path, query, fragment⟩ := by
  have free : ∀ (mark : Char) (text : Text), mark ∉ text →
      ∀ symbol ∈ text, (symbol == mark) = false := by
    intro mark text absent symbol member
    rw [beq_eq_false_iff_ne]
    intro same
    exact absent (same ▸ member)
  have front : ∀ symbol ∈ path ++ marked '?' query, (symbol == '#') = false := by
    apply free
    unfold marked
    split
    · simpa using pathFragment
    · simp only [List.mem_append, List.mem_cons, not_or]
      exact ⟨pathFragment, by decide, queryFragment⟩
  have shown : before (· == '#') (path ++ marked '?' query ++ marked '#' fragment) =
      path ++ marked '?' query := by
    have ends : before (· == '#') (marked '#' fragment) = [] := by
      unfold marked
      split <;> rfl
    rw [before_append _ _ _ front, ends, List.append_nil]
  have hidden : afterFirst (· == '#') (path ++ marked '?' query ++ marked '#' fragment) =
      fragment := by
    unfold afterFirst
    rw [fromFirst_append _ _ _ front]
    unfold marked
    split
    · rename_i empty
      exact empty.symm
    · rfl
  have plain := free '?' path pathQuery
  have pathed : before (· == '?') (path ++ marked '?' query) = path := by
    have ends : before (· == '?') (marked '?' query) = [] := by
      unfold marked
      split <;> rfl
    rw [before_append _ _ _ plain, ends, List.append_nil]
  have queried : afterFirst (· == '?') (path ++ marked '?' query) = query := by
    unfold afterFirst
    rw [fromFirst_append _ _ _ plain]
    unfold marked
    split
    · rename_i empty
      exact empty.symm
    · rfl
  unfold splitRest
  rw [shown, hidden, pathed, queried]

/-- A path holds no mark of a query or of a fragment. -/
theorem path_free (scheme netloc url : Text) : '?' ∉ (splitRest scheme netloc url).path ∧
    '#' ∉ (splitRest scheme netloc url).path ∧ '#' ∉ (splitRest scheme netloc url).query := by
  refine ⟨?_, ?_, ?_⟩
  · intro member
    have clear := before_free (· == '?') _ '?' member
    exact absurd clear (by decide)
  · intro member
    have clear := before_free (· == '#') _ '#' (before_subset (· == '?') _ member)
    exact absurd clear (by decide)
  · intro member
    have clear := before_free (· == '#') _ '#' (afterFirst_subset (· == '?') _ member)
    exact absurd clear (by decide)

theorem splitRest_subset (scheme netloc url : Text) : (splitRest scheme netloc url).path ⊆ url ∧
    (splitRest scheme netloc url).query ⊆ url ∧ (splitRest scheme netloc url).fragment ⊆ url :=
  ⟨List.Subset.trans (before_subset _ _) (before_subset _ _),
    List.Subset.trans (afterFirst_subset _ _) (before_subset _ _), afterFirst_subset _ _⟩

/-- After a location the path is empty or begins with a slash. -/
theorem path_rooted (scheme url : Text) (located : (splitNetloc url).1 ≠ []) :
    (splitRest scheme (splitNetloc url).1 (splitNetloc url).2).path = [] ∨
      ∃ rest, (splitRest scheme (splitNetloc url).1 (splitNetloc url).2).path = '/' :: rest := by
  change before (· == '?') (before (· == '#') (splitNetloc url).2) = [] ∨
    ∃ rest, before (· == '?') (before (· == '#') (splitNetloc url).2) = '/' :: rest
  rcases splitNetloc_rest url located with empty | ⟨symbol, rest, starts, delimiter⟩
  · rw [empty]
    exact .inl rfl
  · rw [starts]
    unfold isDelimiter at delimiter
    rw [Bool.or_eq_true, Bool.or_eq_true, beq_iff_eq, beq_iff_eq, beq_iff_eq] at delimiter
    rcases delimiter with (slash | query) | fragment
    · rw [slash]
      exact .inr ⟨before (· == '?') (before (· == '#') rest), rfl⟩
    · rw [query]
      exact .inl rfl
    · rw [fragment]
      exact .inl rfl

end Locations

section Restored

variable (unicode : Unicode)

theorem clean_append (first second : Text) : Clean (first ++ second) ↔
    Clean first ∧ Clean second := by
  unfold Clean
  simp only [List.mem_append]
  constructor
  · intro both
    exact ⟨fun symbol member => both symbol (.inl member),
      fun symbol member => both symbol (.inr member)⟩
  · rintro ⟨left, right⟩ symbol (member | member)
    · exact left symbol member
    · exact right symbol member

theorem clean_subset {first second : Text} (clean : Clean second) (inside : first ⊆ second) :
    Clean first := fun symbol member => clean symbol (inside member)

theorem clean_marked (mark : Char) (text : Text) (own : Clean [mark]) (clean : Clean text) :
    Clean (marked mark text) := by
  unfold marked
  split
  · intro symbol member
    exact absurd member List.not_mem_nil
  · exact (clean_append [mark] text).mpr ⟨own, clean⟩

/-- These parts of a target are restored from the text that they are put together to. -/
structure Restorable (parts : SplitResult) : Prop where
  named : isScheme parts.scheme = true
  lowered : unicode.lower parts.scheme = parts.scheme
  netlocUsed : parts.scheme ∈ usesNetloc
  free : ∀ symbol ∈ parts.netloc, isDelimiter symbol = false
  brackets : checkBrackets unicode parts.netloc = .ok ()
  normal : checkNetloc unicode parts.netloc = .ok ()
  filled : parts.path ≠ []
  rooted : parts.netloc ≠ [] → parts.path.head? = some '/'
  pathClear : '?' ∉ parts.path ∧ '#' ∉ parts.path
  queryClear : '#' ∉ parts.query
  clean : Clean parts.scheme ∧ Clean parts.netloc ∧ Clean parts.path ∧ Clean parts.query ∧
    Clean parts.fragment

/-- A location and a path are read back from what they are put together to. -/
theorem splitNetloc_unsplit (parts : SplitResult) (restorable : Restorable unicode parts)
    (tail : Text) :
    splitNetloc (unsplitLocation parts ++ tail) = (parts.netloc, parts.path ++ tail) := by
  have slashed : parts.path.head? = some '/' →
      ∃ symbol rest, parts.path ++ tail = symbol :: rest ∧ isDelimiter symbol = true := by
    intro head
    cases path : parts.path with
    | nil =>
        rw [path] at head
        simp at head
    | cons symbol rest =>
        rw [path, List.head?_cons, Option.some.injEq] at head
        exact ⟨symbol, rest ++ tail, rfl, by rw [head]; rfl⟩
  unfold unsplitLocation
  by_cases located : parts.netloc = []
  · rw [if_neg (not_not.mpr located), located]
    by_cases double : ['/', '/'] <+: parts.path
    · have head : parts.path.head? = some '/' := by
        obtain ⟨rest, path⟩ := double
        rw [← path]
        rfl
      rw [if_pos double]
      exact splitNetloc_slashes [] (parts.path ++ tail) (by simp) (.inr (slashed head))
    · rw [if_neg double]
      by_cases head : parts.path.head? = some '/'
      · rw [if_pos ⟨restorable.netlocUsed, .inr head⟩]
        exact splitNetloc_slashes [] (parts.path ++ tail) (by simp) (.inr (slashed head))
      · rw [if_neg]
        · apply splitNetloc_plain
          intro slashes
          apply head
          cases path : parts.path with
          | nil => exact absurd path restorable.filled
          | cons symbol rest =>
              rw [path, List.cons_append, List.cons_prefix_cons] at slashes
              rw [List.head?_cons, slashes.1]
        · rintro ⟨_, empty | head'⟩
          · exact restorable.filled empty
          · exact head head'
  · have head := restorable.rooted located
    rw [if_pos located, if_neg fun both => both.2 head]
    have whole := splitNetloc_slashes parts.netloc (parts.path ++ tail) restorable.free
      (.inr (slashed head))
    simpa using whole

/-- The parts of a restorable URL are written as a clean text. -/
theorem clean_urlunsplit (parts : SplitResult) (restorable : Restorable unicode parts) :
    Clean (parts.scheme ++ ':' :: (unsplitLocation parts ++ marked '?' parts.query ++
      marked '#' parts.fragment)) := by
  obtain ⟨scheme, netloc, path, query, fragment⟩ := restorable.clean
  have signs : Clean [':'] ∧ Clean ['?'] ∧ Clean ['#'] ∧ Clean ['/', '/'] := by
    simp [Clean, isSpace, isControl]
  have location : Clean (unsplitLocation parts) := by
    have slash : Clean ['/'] := clean_subset signs.2.2.2 (by simp)
    unfold unsplitLocation
    split
    · rw [clean_append, clean_append]
      refine ⟨⟨signs.2.2.2, netloc⟩, ?_⟩
      split
      · exact (clean_append ['/'] parts.path).mpr ⟨slash, path⟩
      · exact path
    · split
      · exact (clean_append ['/', '/'] parts.path).mpr ⟨signs.2.2.2, path⟩
      · split
        · exact (clean_append ['/', '/'] parts.path).mpr ⟨signs.2.2.2, path⟩
        · exact path
  have rest : Clean (unsplitLocation parts ++ marked '?' parts.query ++
      marked '#' parts.fragment) := by
    rw [clean_append, clean_append]
    exact ⟨⟨location, clean_marked '?' _ signs.2.1 query⟩, clean_marked '#' _ signs.2.2.1 fragment⟩
  rw [clean_append]
  exact ⟨scheme, (clean_append [':'] _).mpr ⟨signs.1, rest⟩⟩

/-- Restorable parts have a scheme, which begins the text. -/
theorem urlunsplit_schemed (parts : SplitResult) (restorable : Restorable unicode parts) :
    urlunsplit parts = parts.scheme ++ ':' :: (unsplitLocation parts ++
      marked '?' parts.query ++ marked '#' parts.fragment) := by
  have schemed : parts.scheme ≠ [] := by
    intro empty
    have named := restorable.named
    rw [empty] at named
    exact absurd named (by decide)
  unfold urlunsplit
  dsimp only
  rw [if_neg schemed]
  simp only [List.append_assoc, List.cons_append]

/-- A restorable URL is clean. -/
theorem clean_of_urlunsplit (parts : SplitResult) (restorable : Restorable unicode parts) :
    Clean (urlunsplit parts) := by
  rw [urlunsplit_schemed unicode parts restorable]
  exact clean_urlunsplit unicode parts restorable

/-- Restorable parts are restored. -/
theorem urlsplit_urlunsplit (parts : SplitResult) (restorable : Restorable unicode parts) :
    urlsplit unicode (urlunsplit parts) = .ok parts := by
  have split := splitNetloc_unsplit unicode parts restorable
    (marked '?' parts.query ++ marked '#' parts.fragment)
  rw [← List.append_assoc, ← List.append_assoc] at split
  rw [urlunsplit_schemed unicode parts restorable,
    urlsplit_named unicode _ _ (clean_urlunsplit unicode parts restorable)
      restorable.named, split, restorable.lowered]
  · rw [splitRest_marked _ _ _ _ _ restorable.pathClear.1 restorable.pathClear.2
      restorable.queryClear]
  · rw [split]
    exact restorable.brackets
  · rw [split]
    exact restorable.normal

end Restored

end OperationsConsole.Targets
