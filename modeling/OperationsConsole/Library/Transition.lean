/-
This file studies the transitions of a subject that is sighted in some of the inputs of a run.
Sightings are listed with the newest first, and an absent value forgets what was seen before.
-/

import Mathlib.Data.List.Chain

namespace Library

variable {β : Type*}

/-- The value that is known of a subject is that of its newest sighting. -/
def lastSighted (sightings : List (Option β)) : Option β := sightings.head?.join

variable [DecidableEq β]

/-- A newer sighting makes news when a different value was known. -/
def newsSince (older : List (Option β)) : List (Option β) → List β
  | [] => []
  | none :: newer => newsSince older newer
  | some now :: newer =>
      if (lastSighted (newer ++ older)).any (fun before => before ≠ now) then
        now :: newsSince older newer
      else newsSince older newer

/-- While nothing is forgotten, the newest news agrees with what is known. -/
theorem newsSince_agrees (older newer : List (Option β)) (kept : none ∉ newer) (latest : β)
    (head : (newsSince older newer).head? = some latest) :
    lastSighted (newer ++ older) = some latest := by
  induction newer with
  | nil => cases head
  | cons sighting newer ih =>
      rw [List.mem_cons, not_or] at kept
      cases sighting with
      | none => exact absurd rfl kept.1
      | some now =>
          show some now = some latest
          unfold newsSince at head
          split at head
          · exact head
          · rename_i same
            have before := ih kept.2 head
            rw [before, Option.any_some, decide_eq_true_eq, not_not] at same
            rw [same]

/-- While nothing is forgotten, two news in a row differ. -/
theorem newsSince_alternates (older newer : List (Option β)) (kept : none ∉ newer) :
    (newsSince older newer).IsChain (· ≠ ·) := by
  induction newer with
  | nil => exact .nil
  | cons sighting newer ih =>
      rw [List.mem_cons, not_or] at kept
      cases sighting with
      | none => exact ih kept.2
      | some now =>
          unfold newsSince
          split
          · rename_i different
            rw [List.isChain_cons]
            refine ⟨?_, ih kept.2⟩
            intro before head
            have known := newsSince_agrees older newer kept.2 before head
            rw [known, Option.any_some, decide_eq_true_eq] at different
            exact Ne.symm different
          · exact ih kept.2

end Library
