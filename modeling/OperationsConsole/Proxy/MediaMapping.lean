/-
This file embeds how the admin proxy composes the media mapping coverage of an extraction version from
two answers of catalog-api.
-/

import OperationsConsole.Library.Json

namespace OperationsConsole.Proxy

open Library

/-- These are the sources of `_MEDIA_MAPPING_PROVIDERS`. -/
def mediaMappingProviders : List String := ["discogs", "musicbrainz"]

def mediaMappingTopN : ℕ := 10

/-- A set is asked only for a value that can be hashed. -/
def providerOf (source : Json) : Except Raised (Option String) :=
  source.hash.map fun _ => mediaMappingProviders.find? source.isTextOf

/-- A truth value is an integer of the language. -/
def intOf? : Json → Option ℤ
  | .int value => some value
  | .bool value => some (if value then 1 else 0)
  | _ => none

/-- One row of the ranking names an unmapped name and counts its releases. -/
structure UnmappedFormat where
  kind : Json
  name : Json
  count : Json

structure Coverage where
  version : Json
  source : Json
  provider : Json
  mediaTaggedReleases : Json
  releasesWithUnmappedMedia : Json
  unmappedRate : Json
  limit : Json
  topUnmappedFormats : List UnmappedFormat
  truncated : Bool

def unmappedFormat (entry : Json) : Except Raised UnmappedFormat := do
  let kind ← entry.get "kind" .null
  let name ← entry.get "name" .null
  let count ← entry.get "releases" (.int 0)
  return ⟨kind, name, count⟩

/-- The summary tells only the version and its source. -/
def composeMediaMappingCoverage (summary coverage : Json) : Except Raised Coverage := do
  let top ← coverage.get "top_unmapped" .null
  let limit ← coverage.get "limit" (.int mediaMappingTopN)
  let version ← summary.get "version" .null
  let source ← summary.get "source" .null
  let provider ← coverage.get "provider" .null
  let mediaTaggedReleases ← coverage.get "media_tagged_releases" (.int 0)
  let releasesWithUnmapped ← coverage.get "releases_with_unmapped" (.int 0)
  let unmappedRate ← coverage.get "unmapped_rate" (.float (.finite 0))
  let topUnmapped ← (top.orElse (.list [])).iterate
  let formats ← topUnmapped.mapM unmappedFormat
  return {
    version := version, source := source, provider := provider
    mediaTaggedReleases := mediaTaggedReleases, releasesWithUnmappedMedia := releasesWithUnmapped
    unmappedRate := unmappedRate, limit := limit, topUnmappedFormats := formats
    truncated := (intOf? limit).any fun bound => bound ≤ (topUnmapped.length : ℤ) }

mutual

/-- A body is encoded when its response is made: a number out of range is not encoded, nor is a lone
surrogate. -/
def encodeJson : Json → Except Raised Unit
  | .float value => if value.isFinite then .ok () else .error .valueError
  | .text value => if encodable value then .ok () else .error .unicodeEncodeError
  | .list items => encodeItems items
  | .dict items => encodeMembers items
  | _ => .ok ()

def encodeItems : List Json → Except Raised Unit
  | [] => .ok ()
  | item :: rest => do
      encodeJson item
      encodeItems rest

def encodeMembers : List (PyText × Json) → Except Raised Unit
  | [] => .ok ()
  | member :: rest => do
      encodeMember member
      encodeMembers rest

def encodeMember : PyText × Json → Except Raised Unit
  | (key, value) => do
      if encodable key then .ok () else .error .unicodeEncodeError
      encodeJson value

end

def UnmappedFormat.json (format : UnmappedFormat) : Json :=
  .dict [(literal "kind", format.kind), (literal "name", format.name),
    (literal "count", format.count)]

def Coverage.json (coverage : Coverage) : Json :=
  .dict [(literal "available", .bool true), (literal "version", coverage.version),
    (literal "source", coverage.source), (literal "provider", coverage.provider),
    (literal "media_tagged_releases", coverage.mediaTaggedReleases),
    (literal "releases_with_unmapped_media", coverage.releasesWithUnmappedMedia),
    (literal "unmapped_rate", coverage.unmappedRate), (literal "limit", coverage.limit),
    (literal "top_unmapped_formats", .list (coverage.topUnmappedFormats.map UnmappedFormat.json)),
    (literal "truncated", .bool coverage.truncated)]

-- This is `repr` of a value.
variable (repr : Json → PyText)

/-- This is the reason of a coverage that cannot be read. -/
def unreadableReason (source : Json) : PyText :=
  literal "Media mapping coverage is read per provider from catalog-api, which recognises " ++
    literal "discogs and musicbrainz. This extraction version reports source " ++ repr source ++
    literal ", so there is no provider to read coverage for."

def mediaMappingUnavailable (version : PyText) (source : Json) : Json :=
  .dict [(literal "available", .bool false), (literal "version", .text version),
    (literal "source", source), (literal "reason", .text (unreadableReason repr source))]

end OperationsConsole.Proxy
