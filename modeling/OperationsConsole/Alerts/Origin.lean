/-
This file embeds how the console compares the origin of a link with that of a base URL.
The splitter reads a lone surrogate like a character that has no meaning in a URL.
-/

import OperationsConsole.Library.Json
import OperationsConsole.Redaction.UrlSplit

namespace OperationsConsole.Alerts

open Library
open Redaction (Text Unicode ValueError SplitResult)

/-- The checks of the splitter read a lone surrogate as the replacement character. -/
def shown : Symbol → Char
  | .scalar char => char
  | .surrogate _ => '\uFFFD'

def slash : Symbol := .scalar '/'

def colon : Symbol := .scalar ':'

def isDelimiter (symbol : Symbol) : Bool := Redaction.isDelimiter (shown symbol)

def strippedUrl (url : PyText) : PyText :=
  (url.dropWhile fun symbol => (shown symbol).toNat ≤ 32).filter fun symbol =>
    shown symbol ∉ ['\t', '\r', '\n']

def splitScheme (unicode : Unicode) (url : PyText) : PyText × PyText :=
  let head := before (· == colon) url
  if url.contains colon && Redaction.isScheme (head.map shown) then
    ((unicode.lower (head.map shown)).map .scalar, afterFirst (· == colon) url)
  else ([], url)

/-- The location follows two slashes. -/
def location (url : PyText) : PyText :=
  if [slash, slash] <+: url then before isDelimiter (url.drop 2) else []

/-- The origin of a URL is its scheme and its location. -/
def origin (unicode : Unicode) (url : PyText) : PyText × PyText :=
  let schemed := splitScheme unicode (strippedUrl url)
  (schemed.1, location schemed.2)

def checkLocation (unicode : Unicode) (netloc : Text) : Except ValueError Unit := do
  Redaction.checkBrackets unicode netloc
  Redaction.checkNetloc unicode netloc

/-- The splitter rejects some locations. -/
def urlsplit (unicode : Unicode) (url : PyText) : Except Raised (PyText × PyText) :=
  match checkLocation unicode ((origin unicode url).2.map shown) with
  | .ok _ => .ok (origin unicode url)
  | .error _ => .error .valueError

/-- This is `_same_origin`. -/
def sameOrigin (unicode : Unicode) (url base : PyText) : Except Raised Bool := do
  let left ← urlsplit unicode url
  let right ← urlsplit unicode base
  return left = right

/-- This is the page of the base that lists its alerts. -/
def listPage (base : PyText) : PyText := base ++ literal "/alerting/list"

section ListPage

variable (unicode : Unicode) (base : PyText)

/-- The rest of a base follows its scheme. -/
def restOf : PyText := (splitScheme unicode (strippedUrl base)).2

theorem strippedUrl_listPage :
    strippedUrl (listPage base) = strippedUrl base ++ literal "/alerting/list" := by
  unfold strippedUrl listPage
  rw [List.dropWhile_append]
  cases left : base.dropWhile fun symbol => (shown symbol).toNat ≤ 32 with
  | nil => decide
  | cons symbol rest =>
      rw [if_neg (by simp), List.filter_append]
      congr 1

theorem splitScheme_listPage (url : PyText) :
    splitScheme unicode (url ++ literal "/alerting/list") =
      ((splitScheme unicode url).1, (splitScheme unicode url).2 ++ literal "/alerting/list") := by
  unfold splitScheme
  dsimp only
  by_cases held : colon ∈ url
  · have stops : ∃ symbol ∈ url, (symbol == colon) = true := ⟨colon, held, by decide⟩
    obtain ⟨head, rest⟩ := before_append_of_stop (· == colon) url (literal "/alerting/list") stops
    have contains : (url ++ literal "/alerting/list").contains colon = url.contains colon := by
      rw [List.contains_iff_mem.mpr held, List.contains_iff_mem.mpr (List.mem_append_left _ held)]
    have tail : afterFirst (· == colon) (url ++ literal "/alerting/list") =
        afterFirst (· == colon) url ++ literal "/alerting/list" := by
      unfold afterFirst
      rw [rest]
      cases found : fromFirst (· == colon) url with
      | nil =>
          have free := (List.dropWhile_eq_nil_iff.mp found) colon held
          exact absurd free (by decide)
      | cons symbol later => rfl
    rw [head, contains, tail]
    split
    · rfl
    · rfl
  · have other : colon ∉ url ++ literal "/alerting/list" := by
      rw [List.mem_append]
      rintro (inside | inside)
      · exact held inside
      · exact absurd inside (by decide)
    rw [List.contains_eq_mem, List.contains_eq_mem, decide_eq_false held, decide_eq_false other]
    rfl

theorem location_listPage_iff (rest : PyText) :
    location (rest ++ literal "/alerting/list") = location rest ↔ rest ≠ [slash] := by
  match rest with
  | [] => decide
  | [symbol] =>
      by_cases same : symbol = slash
      · rw [same]
        decide
      · have other : ¬[slash, slash] <+: [symbol] ++ literal "/alerting/list" := fun first =>
          same (List.cons_prefix_cons.mp first).1.symm
        unfold location
        rw [if_neg other, if_neg fun first => same (List.cons_prefix_cons.mp first).1.symm]
        simp [same]
  | first :: second :: tail =>
      refine iff_of_true ?_ (by simp)
      have prefixed : [slash, slash] <+: first :: second :: tail ++ literal "/alerting/list" ↔
          [slash, slash] <+: first :: second :: tail := by
        simp [List.cons_prefix_cons]
      unfold location
      by_cases located : [slash, slash] <+: first :: second :: tail
      · rw [if_pos (prefixed.mpr located), if_pos located]
        change before isDelimiter (tail ++ literal "/alerting/list") = before isDelimiter tail
        by_cases held : ∃ symbol ∈ tail, isDelimiter symbol = true
        · exact (before_append_of_stop isDelimiter tail _ held).1
        · have free : ∀ symbol ∈ tail, isDelimiter symbol = false := fun symbol member =>
            Bool.eq_false_iff.mpr fun stops => held ⟨symbol, member, stops⟩
          rw [before_append isDelimiter tail _ free, before_of_free isDelimiter tail free]
          exact List.append_nil tail
      · rw [if_neg fun other => located (prefixed.mp other), if_neg located]

/-- The list page has the origin of its base unless one slash follows the scheme of the base. -/
theorem origin_listPage_iff :
    origin unicode (listPage base) = origin unicode base ↔ restOf unicode base ≠ [slash] := by
  unfold origin
  dsimp only
  rw [strippedUrl_listPage, splitScheme_listPage, Prod.mk.injEq, and_iff_right rfl,
    location_listPage_iff, restOf]

end ListPage

end OperationsConsole.Alerts
