/-
This file embeds how the admin proxy reads the JSON body of a request, and what the routes of the
triggers forward to catalog-api in its place.
-/

import OperationsConsole.Library.JsonPrinting

namespace OperationsConsole.Proxy

open Library
open Library.JsonText

/-- A body is refused with 400, or it raises an exception that no handler catches, or its content is
forwarded. -/
inductive BodyOutcome where
  | refused (detail : PyText)
  | raises (error : Raised)
  | forward (content : Option (List Char))

/-- These are the sources of `ADMIN_EXTRACTION_TRIGGER_SOURCES`. -/
def triggerSources : List String := ["discogs", "musicbrainz"]

section Bodies

variable {φ : Type} (format : FloatFormat φ)
-- The bytes of a body tell a text in the encoding that their start shows, or they tell none.
variable (decode : List UInt8 → Option PyText)
variable (limit : ℕ)

/-- This is the method `loads` on bytes. -/
def loadsBytes (raw : List UInt8) : Except Raised (Value φ) :=
  match decode raw with
  | none => .error .jsonDecodeError
  | some text => loads format limit text

/-- An empty body has no content. -/
def validatedJsonBody (raw : List UInt8) : Except Raised (Option (List Char)) :=
  if raw = [] then .ok none
  else do
    let parsed ← loadsBytes format decode limit raw
    .ok (some (dumps format parsed))

def malformedDetail : PyText := literal "Malformed JSON in request body"

def objectDetail : PyText := literal "Request body must be a JSON object"

-- This is `repr` of a value.
variable (repr : Value φ → PyText)

def conflictDetail (requested : Value φ) (source : String) : PyText :=
  literal "Body source " ++ repr requested ++ literal " conflicts with this route's source " ++
    repr (.text (literal source))

def proxyLoginBody (raw : List UInt8) : BodyOutcome :=
  match validatedJsonBody format decode limit raw with
  | .ok content => .forward content
  | .error .jsonDecodeError => .refused malformedDetail
  | .error error => .raises error

def isTextOf (value : Value φ) (expected : PyText) : Bool :=
  match value with
  | .text text => text = expected
  | _ => false

/-- The route sets the source, and a body may only repeat it. -/
def withSource (source : String) (parsed : Value φ) : BodyOutcome :=
  match parsed with
  | .dict items =>
      let requested := (items.lookup (literal "source")).getD (.text (literal source))
      if isTextOf requested (literal source) then
        .forward (some (dumps format
          (.dict (assignItem (literal "source") (.text (literal source)) items))))
      else .refused (conflictDetail repr requested source)
  | _ => .refused objectDetail

def proxyTriggerForSource (source : String) (raw : List UInt8) : BodyOutcome :=
  if source ∉ triggerSources then .raises .valueError
  else match validatedJsonBody format decode limit raw with
    | .error .jsonDecodeError => .refused malformedDetail
    | .error error => .raises error
    | .ok none => withSource format repr source (.dict [])
    | .ok (some content) =>
        match loads format limit (symbols content) with
        | .ok parsed => withSource format repr source parsed
        | .error error => .raises error

def proxyTrigger (raw : List UInt8) : BodyOutcome :=
  proxyTriggerForSource format decode limit repr "discogs" raw

def proxyTriggerMusicbrainz (raw : List UInt8) : BodyOutcome :=
  proxyTriggerForSource format decode limit repr "musicbrainz" raw

end Bodies

/-- Bytes of ASCII tell the characters with their numbers. -/
def asciiText (raw : List UInt8) : Option PyText :=
  some (raw.map fun byte => .scalar (Char.ofNat byte.toNat))

def asciiBytes (text : String) : List UInt8 := text.toList.map fun char => UInt8.ofNat char.toNat

section Rewriting

variable {φ : Type} (format : FloatFormat φ) (decode : List UInt8 → Option PyText) (limit : ℕ)

/-- A content is printable ASCII, and it reads as a value. -/
structure ReadsAs (content : List Char) (value : Value φ) : Prop where
  printable : Printable content
  reads : loads format limit (symbols content) = .ok value

theorem readsAs_dumps (value : Value φ) (fits : Fits limit value) :
    ReadsAs format limit (dumps format value) (settle value) :=
  ⟨printable_dumps format value, loads_dumps format limit value fits⟩

theorem fits_of_loadsBytes (raw : List UInt8) (value : Value φ)
    (read : loadsBytes format decode limit raw = .ok value) : Fits limit value := by
  unfold loadsBytes at read
  cases decoded : decode raw with
  | none =>
      rw [decoded] at read
      exact nomatch read
  | some text =>
      rw [decoded] at read
      exact fits_of_loads format limit text value read

/-- A body that reads as a value is replaced by another text of this value, and a body that does not
is refused or raises. -/
structure RewritesBody (raw : List UInt8) : Prop where
  rewritten : ∀ value, loadsBytes format decode limit raw = .ok value →
    ∃ content, proxyLoginBody format decode limit raw = .forward (some content) ∧
      ReadsAs format limit content (settle value) ∧
      (Whole value → ReadsAs format limit content value)
  refused : loadsBytes format decode limit raw = .error .jsonDecodeError →
    proxyLoginBody format decode limit raw = .refused malformedDetail
  raised : ∀ error, error ≠ .jsonDecodeError → loadsBytes format decode limit raw = .error error →
    proxyLoginBody format decode limit raw = .raises error

/-- From the text that the proxy writes, catalog-api reads the value that the caller sent. -/
theorem proxyLoginBody_rewrites (raw : List UInt8) (given : raw ≠ []) :
    RewritesBody format decode limit raw where
  rewritten := by
    intro value read
    have reads := readsAs_dumps format limit value (fits_of_loadsBytes format decode limit raw value read)
    refine ⟨dumps format value, ?_, reads, fun whole => ?_⟩
    · rw [proxyLoginBody, validatedJsonBody, if_neg given, read]
      rfl
    · rw [settle_of_whole value whole] at reads
      exact reads
  refused := by
    intro read
    rw [proxyLoginBody, validatedJsonBody, if_neg given, read]
    rfl
  raised := by
    intro error other read
    rw [proxyLoginBody, validatedJsonBody, if_neg given, read]
    cases error with
    | jsonDecodeError => exact absurd rfl other
    | _ => rfl

/-- A body of ASCII bytes with a float. -/
theorem proxyLoginBody_rewrites_ascii :
    RewritesBody wholeFloats asciiText 3 (asciiBytes "\x7b\x22ids\x22: [1, 2.0]\x7d") :=
  proxyLoginBody_rewrites wholeFloats asciiText 3 _ (by decide)

end Rewriting

section Triggers

variable {φ : Type} (format : FloatFormat φ) (decode : List UInt8 → Option PyText) (limit : ℕ)
variable (repr : Value φ → PyText) (source : String)

/-- An empty body asks for the same as an empty object. -/
def triggerBody (raw : List UInt8) : Except Raised (Value φ) :=
  if raw = [] then .ok (.dict []) else loadsBytes format decode limit raw

/-- The members of an object as the proxy reads them. -/
def settledMembers (items : List (PyText × Value φ)) : List (PyText × Value φ) :=
  dictOf (items.map settleMember)

/-- The source that an object names. -/
def namedSource (items : List (PyText × Value φ)) : Option (Value φ) :=
  (settledMembers items).lookup (literal "source")

/-- The members of the caller are forwarded with the source of the route. -/
def triggerPayload (items : List (PyText × Value φ)) : Value φ :=
  .dict (assignItem (literal "source") (.text (literal source)) (settledMembers items))

theorem settledMembers_settled (items : List (PyText × Value φ)) (item : PyText × Value φ)
    (member : item ∈ settledMembers items) : settleMember item = item := by
  obtain ⟨⟨key, original⟩, _, rfl⟩ := List.mem_map.mp (mem_of_dictOf _ item member)
  simp only [settleMember, joined_joined, settle_settle]

/-- The payload is settled already. -/
theorem settle_triggerPayload (items : List (PyText × Value φ)) :
    settle (triggerPayload source items) = triggerPayload source items := by
  apply settle_dict
  · exact ((⟨settledMembers items, nodup_dictOf _⟩ : Dict PyText (Value φ)).set _ _).nodup
  · intro item member
    rcases mem_of_assignItem _ _ _ item member with rfl | old
    · rw [settleMember, settle, joined_literal, joined_literal]
    · exact settledMembers_settled items item old

theorem fits_triggerPayload (items : List (PyText × Value φ))
    (fits : Fits (limit + 1) (.dict items)) : Fits (limit + 1) (triggerPayload source items) := by
  have settled := fits_settle (limit + 1) _ fits
  rw [settle, settleMembers_eq_map] at settled
  refine ⟨rfl, ?_⟩
  intro part member
  obtain ⟨item, listed, rfl⟩ := List.mem_map.mp member
  rcases mem_of_assignItem _ _ _ item listed with rfl | old
  · exact fits_of_isContainer limit _ rfl rfl
  · exact settled.2 _ (List.mem_map_of_mem old)

theorem proxyTriggerForSource_eq (known : source ∈ triggerSources) (raw : List UInt8) :
    proxyTriggerForSource format decode (limit + 1) repr source raw =
      match triggerBody format decode (limit + 1) raw with
      | .ok value => withSource format repr source (settle value)
      | .error .jsonDecodeError => .refused malformedDetail
      | .error error => .raises error := by
  rw [proxyTriggerForSource, if_neg (not_not.mpr known), validatedJsonBody, triggerBody]
  by_cases empty : raw = []
  · rw [if_pos empty, if_pos empty]
    rfl
  · rw [if_neg empty, if_neg empty]
    cases read : loadsBytes format decode (limit + 1) raw with
    | error error => cases error <;> rfl
    | ok value =>
        have reread := loads_dumps format (limit + 1) value
          (fits_of_loadsBytes format decode (limit + 1) raw value read)
        change (match loads format (limit + 1) (symbols (dumps format value)) with
          | .ok parsed => _
          | .error error => _) = _
        rw [reread]

/-- A route forwards an object with its own source. It refuses every other value and a malformed body,
and what else the reader raises, it raises. -/
structure TriggerLaw (trigger : List UInt8 → BodyOutcome) (raw : List UInt8) : Prop where
  sent : ∀ items, triggerBody format decode (limit + 1) raw = .ok (.dict items) →
    (∀ requested ∈ namedSource items, requested = .text (literal source)) →
    ∃ content, trigger raw = .forward (some content) ∧
      ReadsAs format (limit + 1) content (triggerPayload source items)
  conflict : ∀ items, triggerBody format decode (limit + 1) raw = .ok (.dict items) →
    ∀ requested ∈ namedSource items, requested ≠ .text (literal source) →
    trigger raw = .refused (conflictDetail repr requested source)
  other : ∀ value, triggerBody format decode (limit + 1) raw = .ok value →
    (∀ items, value ≠ .dict items) → trigger raw = .refused objectDetail
  malformed : triggerBody format decode (limit + 1) raw = .error .jsonDecodeError →
    trigger raw = .refused malformedDetail
  raised : ∀ error, error ≠ .jsonDecodeError →
    triggerBody format decode (limit + 1) raw = .error error → trigger raw = .raises error

theorem isTextOf_iff (value : Value φ) (expected : PyText) :
    isTextOf value expected = true ↔ value = .text expected := by
  cases value <;> simp [isTextOf]

theorem fits_triggerBody (raw : List UInt8) (value : Value φ)
    (read : triggerBody format decode (limit + 1) raw = .ok value) : Fits (limit + 1) value := by
  unfold triggerBody at read
  split at read
  · injection read with same
    rw [← same]
    exact ⟨rfl, fun part member => absurd member List.not_mem_nil⟩
  · exact fits_of_loadsBytes format decode (limit + 1) raw value read

theorem triggerLaw_forSource (known : source ∈ triggerSources) (raw : List UInt8) :
    TriggerLaw format decode limit repr source
      (proxyTriggerForSource format decode (limit + 1) repr source) raw := by
  have step := proxyTriggerForSource_eq format decode limit repr source known raw
  constructor
  · intro items read agrees
    have fits := fits_triggerPayload limit source items (fits_triggerBody format decode limit raw _ read)
    have reads := readsAs_dumps format (limit + 1) _ fits
    rw [settle_triggerPayload] at reads
    have repeated : isTextOf ((namedSource items).getD (.text (literal source)))
        (literal source) = true := by
      rw [isTextOf_iff]
      cases named : namedSource items with
      | none => rfl
      | some requested => exact agrees requested named
    refine ⟨_, ?_, reads⟩
    rw [step, read]
    dsimp only
    rw [settle, settleMembers_eq_map, withSource]
    exact if_pos repeated
  · intro items read requested named differs
    have other : ¬isTextOf requested (literal source) = true := fun same =>
      differs ((isTextOf_iff requested _).mp same)
    have found : (settledMembers items).lookup (literal "source") = some requested := named
    rw [step, read]
    dsimp only
    rw [settle, settleMembers_eq_map, withSource]
    unfold settledMembers at found
    rw [found]
    exact if_neg other
  · intro value read apart
    rw [step, read]
    cases value with
    | dict items => exact absurd rfl (apart items)
    | _ => rfl
  · intro read
    rw [step, read]
  · intro error other read
    rw [step, read]
    cases error with
    | jsonDecodeError => exact absurd rfl other
    | _ => rfl

/-- Each of the two routes has its own source. -/
theorem proxyTriggers_law (raw : List UInt8) :
    TriggerLaw format decode limit repr "discogs" (proxyTrigger format decode (limit + 1) repr) raw ∧
      TriggerLaw format decode limit repr "musicbrainz"
        (proxyTriggerMusicbrainz format decode (limit + 1) repr) raw :=
  ⟨triggerLaw_forSource format decode limit repr "discogs" (by decide) raw,
    triggerLaw_forSource format decode limit repr "musicbrainz" (by decide) raw⟩

end Triggers

end OperationsConsole.Proxy
