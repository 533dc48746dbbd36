/-
This file compares the ticket store with a reference list of issued tickets.
The reference never forgets a ticket, and it marks what happened to each one.
-/

import Mathlib.Data.List.Sublists
import OperationsConsole.Library.Loop
import OperationsConsole.Session.Gate

namespace OperationsConsole.Session

open Library

/-- One call to the ticket store. -/
inductive TicketCall where
  | issue (session : AdminSession) (token ticket : String)
  | redeem (ticket : Option String)
  | purge (key : String)

/-- A call runs at one instant. -/
structure TicketStep where
  now : Instant
  call : TicketCall

/-- A call changes the store, and a redemption may return a grant. -/
def TicketStore.apply (platform : Platform) (store : TicketStore) (step : TicketStep) :
    TicketStore × Option TicketGrant :=
  match step.call with
  | .issue session token ticket => ((store.issue platform session token ticket step.now).1, none)
  | .redeem ticket => store.redeem platform ticket step.now
  | .purge key => (store.purge platform key, none)

/-- The reference keeps every issued ticket with its deadline and its marks. -/
structure TicketRecord where
  ticket : String
  grant : TicketGrant
  issuedAt : Instant
  deadline : Seconds
  redeemed : Bool := false
  purged : Bool := false
  dropped : Bool := false
  deriving DecidableEq

namespace TicketRecord

def outstanding (record : TicketRecord) : Bool :=
  !record.redeemed && !record.purged && !record.dropped

def live (now : Seconds) (record : TicketRecord) : Bool :=
  record.outstanding && decide (now < record.deadline)

def drop (record : TicketRecord) : TicketRecord := { record with dropped := true }

def redeem (ticket : Option String) (record : TicketRecord) : TicketRecord :=
  if ticket = some record.ticket then { record with redeemed := true } else record

def purge (platform : Platform) (key : String) (record : TicketRecord) : TicketRecord :=
  if platform.tokenDigest record.grant.token = key then { record with purged := true } else record

/-- The store's item of a record. -/
def item (platform : Platform) (record : TicketRecord) : String × Seconds × TicketGrant :=
  (platform.tokenDigest record.ticket, record.deadline, record.grant)

end TicketRecord

/-- This marks the oldest live records as dropped. -/
def dropOldest (now : Seconds) : Nat → List TicketRecord → List TicketRecord
  | _, [] => []
  | 0, records => records
  | count + 1, record :: rest =>
      if record.live now then record.drop :: dropOldest now count rest
      else record :: dropOldest now (count + 1) rest

/-- The sizes of a ticket store and the clock of its platform. -/
structure TicketSettings where
  ttlSeconds : Seconds := wsTicketSeconds
  maxOutstanding : Nat := maxOutstandingTickets

/-- An issue drops the oldest live tickets beyond the bound, and other calls only mark. -/
def referenceStep (platform : Platform) (settings : TicketSettings) (records : List TicketRecord)
    (step : TicketStep) : List TicketRecord :=
  match step.call with
  | .issue session token ticket =>
      let now := step.now.monotonic
      let surplus := (records.filter (TicketRecord.live now)).length + 1 - settings.maxOutstanding
      let lifetime := max (min settings.ttlSeconds (session.secondsLeft step.now.wall)) 0
      dropOldest now surplus records ++
        [{ ticket := ticket, grant := ⟨session, token⟩, issuedAt := step.now,
           deadline := now + lifetime, dropped := settings.maxOutstanding = 0 }]
  | .redeem ticket => records.map (TicketRecord.redeem ticket)
  | .purge key => records.map (TicketRecord.purge platform key)

section Run

variable (platform : Platform) (settings : TicketSettings)

def storeAfter (history : List TicketStep) : TicketStore :=
  after (fun store step => (store.apply platform step).1)
    { ttlSeconds := settings.ttlSeconds, maxOutstanding := settings.maxOutstanding } history

/-- The reference after the calls of a history, the newest first. -/
def referenceAfter (history : List TicketStep) : List TicketRecord :=
  after (referenceStep platform settings) [] history

/-- The issues of a run, the newest first. -/
def issues (history : List TicketStep) : List (String × TicketGrant × Instant) :=
  history.filterMap fun step =>
    match step.call with
    | .issue session token ticket => some (ticket, ⟨session, token⟩, step.now)
    | _ => none

/-- The tickets that a run minted, the newest first. -/
def mintedTickets (history : List TicketStep) : List String := (issues history).map Prod.fst

/-- The calls of a run come in time order, and each minted ticket is new and not empty. -/
structure TicketRun (history : List TicketStep) : Prop where
  ordered : (history.map fun step => step.now.monotonic).Pairwise fun later former =>
    former ≤ later
  distinct : (mintedTickets history).Nodup
  nonempty : "" ∉ mintedTickets history

/-- The tickets that a run granted, the newest first. -/
def grantedTickets : List TicketStep → List String
  | [] => []
  | step :: earlier =>
      match step.call, ((storeAfter platform settings earlier).apply platform step).2 with
      | .redeem (some ticket), some _ => ticket :: grantedTickets earlier
      | _, _ => grantedTickets earlier

end Run

/-- Dropping leaves exactly the later live records live. -/
theorem dropOldest_live (now : Seconds) (count : Nat) (records : List TicketRecord) :
    (dropOldest now count records).filter (TicketRecord.live now) =
      (records.filter (TicketRecord.live now)).drop count := by
  induction records generalizing count with
  | nil => cases count <;> simp [dropOldest]
  | cons record rest ih =>
      cases count with
      | zero => rfl
      | succ count =>
          rw [dropOldest]
          cases alive : record.live now with
          | true =>
              have dead : record.drop.live now = false := by
                simp [TicketRecord.live, TicketRecord.outstanding, TicketRecord.drop]
              rw [if_pos rfl, List.filter_cons, List.filter_cons, dead, alive, if_neg (by simp),
                if_pos rfl, List.drop_succ_cons, ih]
          | false =>
              rw [if_neg (by simp), List.filter_cons, List.filter_cons, alive, if_neg (by simp), ih,
                if_neg (by simp)]

/-- Dropping keeps every other field of a record. -/
theorem dropOldest_map {β : Type} (view : TicketRecord → β) (now : Seconds) (count : Nat)
    (records : List TicketRecord) (kept : ∀ record : TicketRecord, view record.drop = view record) :
    (dropOldest now count records).map view = records.map view := by
  induction records generalizing count with
  | nil => cases count <;> rfl
  | cons record rest ih =>
      cases count with
      | zero => rfl
      | succ count =>
          rw [dropOldest]
          split
          · rw [List.map_cons, List.map_cons, kept, ih]
          · rw [List.map_cons, List.map_cons, ih]

/-- A sublist that holds every item of a list without repetition is that list. -/
theorem sublist_whole {α : Type} (part whole : List α) (sublist : part.Sublist whole)
    (unique : whole.Nodup) (covers : ∀ item ∈ whole, item ∈ part) : part = whole :=
  sublist.eq_of_length_le (unique.subperm covers).length_le

/-- A marking keeps the unmarked records in their places. -/
theorem filter_sublist_marked (mark : TicketRecord → TicketRecord) (keep : TicketRecord → Bool)
    (records : List TicketRecord)
    (unmarked : ∀ record ∈ records, keep record = true → mark record = record) :
    (records.filter keep).Sublist (records.map mark) := by
  induction records with
  | nil => exact List.Sublist.slnil
  | cons record rest ih =>
      have later := ih fun other member => unmarked other (List.mem_cons_of_mem _ member)
      rw [List.map_cons, List.filter_cons]
      split
      · rename_i kept
        rw [unmarked record List.mem_cons_self kept]
        exact later.cons_cons record
      · exact later.cons _

/-- The store holds a part of the records: all of them outstanding, and every live one. -/
structure Simulates (platform : Platform) (settings : TicketSettings) (now : Seconds)
    (store : TicketStore) (records kept : List TicketRecord) : Prop where
  ttl : store.ttlSeconds = settings.ttlSeconds
  bound : store.maxOutstanding = settings.maxOutstanding
  stored : store.tickets.items = kept.map (TicketRecord.item platform)
  part : kept.Sublist records
  unmarked : ∀ record ∈ kept, record.outstanding = true
  complete : ∀ record ∈ records, record.live now = true → record ∈ kept
  distinct : (records.map TicketRecord.ticket).Nodup
  named : ∀ record ∈ records, record.ticket ≠ ""

section Simulation

variable (platform : Platform) (settings : TicketSettings)

theorem simulates_later (now later : Seconds) (store : TicketStore)
    (records kept : List TicketRecord) (simulates : Simulates platform settings now store records kept)
    (ordered : now ≤ later) : Simulates platform settings later store records kept := by
  refine { simulates with complete := ?_ }
  intro record member alive
  apply simulates.complete record member
  rw [TicketRecord.live, Bool.and_eq_true, decide_eq_true_eq] at alive ⊢
  exact ⟨alive.1, lt_of_le_of_lt ordered alive.2⟩

/-- After the prune the store holds exactly the live records. -/
theorem simulates_live (now : Seconds) (store : TicketStore) (records kept : List TicketRecord)
    (simulates : Simulates platform settings now store records kept) :
    kept.filter (TicketRecord.live now) = records.filter (TicketRecord.live now) := by
  apply sublist_whole
  · exact simulates.part.filter _
  · exact (List.Nodup.of_map _ simulates.distinct).filter _
  · intro record member
    rw [List.mem_filter] at member ⊢
    exact ⟨simulates.complete record member.1 member.2, member.2⟩

theorem prune_items (now : Instant) (store : TicketStore) (records kept : List TicketRecord)
    (simulates : Simulates platform settings now.monotonic store records kept) :
    (store.prune now).tickets.items =
      (records.filter (TicketRecord.live now.monotonic)).map (TicketRecord.item platform) := by
  rw [← simulates_live platform settings now.monotonic store records kept simulates]
  change store.tickets.items.filter _ = _
  rw [simulates.stored, List.filter_map]
  congr 1
  apply List.filter_congr
  intro record member
  rw [Bool.eq_iff_iff, TicketRecord.live, simulates.unmarked record member, Bool.true_and]
  rfl

/-- The digest of a new ticket is not in the store. -/
theorem new_ticket_absent (injective : Function.Injective platform.tokenDigest) (now : Seconds)
    (store : TicketStore) (records kept : List TicketRecord)
    (simulates : Simulates platform settings now store records kept) (ticket : String)
    (new : ticket ∉ records.map TicketRecord.ticket) :
    platform.tokenDigest ticket ∉ store.tickets.items.map Prod.fst := by
  rw [simulates.stored, List.map_map, List.mem_map]
  intro ⟨record, member, same⟩
  apply new
  exact List.mem_map.mpr ⟨record, simulates.part.subset member, injective same⟩

/-- An issue stores the new ticket last and drops the surplus from the front. -/
theorem issue_items (injective : Function.Injective platform.tokenDigest) (now : Instant)
    (store : TicketStore) (records kept : List TicketRecord)
    (simulates : Simulates platform settings now.monotonic store records kept)
    (session : AdminSession) (token ticket : String)
    (new : ticket ∉ records.map TicketRecord.ticket) :
    (store.issue platform session token ticket now).1.tickets.items =
      ((records.filter (TicketRecord.live now.monotonic)).map (TicketRecord.item platform) ++
        [(platform.tokenDigest ticket, now.monotonic +
          max (min settings.ttlSeconds (session.secondsLeft now.wall)) 0,
          (⟨session, token⟩ : TicketGrant))]).drop
        ((records.filter (TicketRecord.live now.monotonic)).length + 1 - settings.maxOutstanding) := by
  have pruned := prune_items platform settings now store records kept simulates
  have absent : (store.prune now).tickets.get? (platform.tokenDigest ticket) = none := by
    rw [Dict.get?_eq_none_iff]
    intro present
    have before := new_ticket_absent platform settings injective now.monotonic store records kept
      simulates ticket new
    apply before
    exact (List.filter_sublist.map Prod.fst).subset present
  rw [TicketStore.issue]
  dsimp only
  rw [Dict.items_trim, Dict.items_set_of_new _ _ _ absent, pruned, List.length_append,
    List.length_map, List.length_singleton, TicketStore.lifetime]
  rw [show (store.prune now).ttlSeconds = settings.ttlSeconds from simulates.ttl,
    show (store.prune now).maxOutstanding = settings.maxOutstanding from simulates.bound]

theorem issued_distinct (now : Seconds) (count : Nat) (records : List TicketRecord)
    (minted : TicketRecord) (distinct : (records.map TicketRecord.ticket).Nodup)
    (new : minted.ticket ∉ records.map TicketRecord.ticket) :
    ((dropOldest now count records ++ [minted]).map TicketRecord.ticket).Nodup := by
  rw [List.map_append, dropOldest_map _ _ _ _ fun _ => rfl, List.map_singleton,
    ← List.concat_eq_append, List.nodup_concat]
  exact ⟨new, distinct⟩

theorem issued_named (now : Seconds) (count : Nat) (records : List TicketRecord)
    (minted : TicketRecord) (named : ∀ record ∈ records, record.ticket ≠ "")
    (name : minted.ticket ≠ "") :
    ∀ record ∈ dropOldest now count records ++ [minted], record.ticket ≠ "" := by
  intro record member
  rw [List.mem_append, List.mem_singleton] at member
  rcases member with member | same
  · have inside : record.ticket ∈ (dropOldest now count records).map TicketRecord.ticket :=
      List.mem_map.mpr ⟨record, member, rfl⟩
    rw [dropOldest_map _ _ _ _ fun _ => rfl] at inside
    obtain ⟨old, known, equal⟩ := List.mem_map.mp inside
    rw [← equal]
    exact named old known
  · rw [same]
    exact name

/-- An issue keeps the simulation. -/
theorem issue_simulates (injective : Function.Injective platform.tokenDigest) (now : Instant)
    (store : TicketStore) (records kept : List TicketRecord)
    (simulates : Simulates platform settings now.monotonic store records kept)
    (session : AdminSession) (token ticket : String)
    (new : ticket ∉ records.map TicketRecord.ticket) (name : ticket ≠ "") :
    ∃ remaining, Simulates platform settings now.monotonic
      (store.issue platform session token ticket now).1
      (referenceStep platform settings records ⟨now, .issue session token ticket⟩) remaining := by
  have items := issue_items platform settings injective now store records kept simulates session
    token ticket new
  let live := records.filter (TicketRecord.live now.monotonic)
  let surplus := live.length + 1 - settings.maxOutstanding
  let dropped := dropOldest now.monotonic surplus records
  have alive : dropped.filter (TicketRecord.live now.monotonic) = live.drop surplus :=
    dropOldest_live now.monotonic surplus records
  let minted : TicketRecord :=
    { ticket := ticket, grant := ⟨session, token⟩, issuedAt := now,
      deadline := now.monotonic + max (min settings.ttlSeconds (session.secondsLeft now.wall)) 0,
      dropped := settings.maxOutstanding = 0 }
  have distinct : ((dropped ++ [minted]).map TicketRecord.ticket).Nodup :=
    issued_distinct now.monotonic surplus records minted simulates.distinct new
  have named : ∀ record ∈ dropped ++ [minted], record.ticket ≠ "" :=
    issued_named now.monotonic surplus records minted simulates.named name
  have outstanding : ∀ record ∈ live.drop surplus, record.outstanding = true := by
    intro record member
    have inside := List.mem_of_mem_drop member
    rw [List.mem_filter, TicketRecord.live, Bool.and_eq_true] at inside
    exact inside.2.1
  have older : ∀ record ∈ dropped, record.live now.monotonic = true →
      record ∈ live.drop surplus := by
    intro record member living
    rw [← alive]
    exact List.mem_filter.mpr ⟨member, living⟩
  have part : (live.drop surplus).Sublist dropped := by
    rw [← alive]
    exact List.filter_sublist
  by_cases empty : settings.maxOutstanding = 0
  · refine ⟨[], simulates.ttl, simulates.bound, ?_, List.nil_sublist _, by simp, ?_, distinct,
      named⟩
    · rw [items, empty, List.map_nil]
      apply List.drop_eq_nil_of_le
      rw [List.length_append, List.length_map, List.length_singleton]
      omega
    · intro record member living
      change record ∈ dropped ++ [minted] at member
      rw [List.mem_append, List.mem_singleton] at member
      rcases member with member | same
      · have inside := older record member living
        rw [List.drop_eq_nil_of_le (by omega)] at inside
        exact inside
      · rw [same] at living
        simp [TicketRecord.live, TicketRecord.outstanding, minted, empty] at living
  · refine ⟨live.drop surplus ++ [minted], simulates.ttl, simulates.bound, ?_,
      part.append (List.Sublist.refl _), ?_, ?_, distinct, named⟩
    · rw [items, List.drop_append_of_le_length, List.map_append, List.map_drop]
      · rfl
      · rw [List.length_map]
        omega
    · intro record member
      rw [List.mem_append, List.mem_singleton] at member
      rcases member with member | same
      · exact outstanding record member
      · rw [same]
        simp [TicketRecord.outstanding, minted, empty]
    · intro record member living
      change record ∈ dropped ++ [minted] at member
      rw [List.mem_append, List.mem_singleton] at member ⊢
      rcases member with member | same
      · exact .inl (older record member living)
      · exact .inr same

/-- A call that marks records and drops their items keeps the simulation. -/
theorem mark_simulates (now : Seconds) (store next : TicketStore) (records kept : List TicketRecord)
    (simulates : Simulates platform settings now store records kept)
    (mark : TicketRecord → TicketRecord) (keep : TicketRecord → Bool)
    (sizes : next.ttlSeconds = store.ttlSeconds ∧ next.maxOutstanding = store.maxOutstanding)
    (stored : next.tickets.items = (kept.filter keep).map (TicketRecord.item platform))
    (ticket : ∀ record, (mark record).ticket = record.ticket)
    (unmarked : ∀ record, keep record = true → mark record = record)
    (marked : ∀ record, keep record = false → (mark record).outstanding = false) :
    Simulates platform settings now next (records.map mark) (kept.filter keep) := by
  refine ⟨sizes.1.trans simulates.ttl, sizes.2.trans simulates.bound, stored, ?_, ?_, ?_, ?_, ?_⟩
  · have places := filter_sublist_marked mark keep records fun record _ => unmarked record
    exact (simulates.part.filter keep).trans places
  · intro record member
    exact simulates.unmarked record (List.mem_filter.mp member).1
  · intro record member living
    obtain ⟨old, inside, same⟩ := List.mem_map.mp member
    rw [← same] at living ⊢
    cases choice : keep old with
    | true =>
        rw [unmarked old choice] at living ⊢
        exact List.mem_filter.mpr ⟨simulates.complete old inside living, choice⟩
    | false =>
        rw [TicketRecord.live, marked old choice] at living
        simp at living
  · rw [List.map_map, show TicketRecord.ticket ∘ mark = TicketRecord.ticket from funext ticket]
    exact simulates.distinct
  · intro record member
    obtain ⟨old, inside, same⟩ := List.mem_map.mp member
    rw [← same, ticket]
    exact simulates.named old inside

/-- A purge keeps the simulation. -/
theorem purge_simulates (now : Instant) (store : TicketStore) (records kept : List TicketRecord)
    (simulates : Simulates platform settings now.monotonic store records kept) (key : String) :
    ∃ remaining, Simulates platform settings now.monotonic (store.purge platform key)
      (referenceStep platform settings records ⟨now, .purge key⟩) remaining := by
  let keep (record : TicketRecord) : Bool := platform.tokenDigest record.grant.token ≠ key
  refine ⟨kept.filter keep, mark_simulates platform settings now.monotonic store _ records kept
    simulates (TicketRecord.purge platform key) keep ⟨rfl, rfl⟩ ?_ ?_ ?_ ?_⟩
  · change store.tickets.items.filter _ = _
    rw [simulates.stored, List.filter_map]
    rfl
  · intro record
    rw [TicketRecord.purge]
    split <;> rfl
  · intro record other
    rw [TicketRecord.purge, if_neg (by simpa [keep] using other)]
  · intro record hit
    rw [TicketRecord.purge, if_pos (by simpa [keep] using hit)]
    simp [TicketRecord.outstanding]

/-- The store finds exactly the kept record of a ticket. -/
theorem lookup_ticket (injective : Function.Injective platform.tokenDigest) (now : Seconds)
    (store : TicketStore) (records kept : List TicketRecord)
    (simulates : Simulates platform settings now store records kept) (ticket : String)
    (entry : Seconds × TicketGrant) :
    store.tickets.get? (platform.tokenDigest ticket) = some entry ↔
      ∃ record ∈ kept, record.ticket = ticket ∧ (record.deadline, record.grant) = entry := by
  rw [Dict.get?_eq_some_iff, simulates.stored, List.mem_map]
  constructor
  · intro ⟨record, member, same⟩
    rw [TicketRecord.item, Prod.mk.injEq] at same
    exact ⟨record, member, injective same.1, same.2⟩
  · intro ⟨record, member, name, same⟩
    exact ⟨record, member, by rw [TicketRecord.item, name, same]⟩

/-- A redemption grants exactly the live record of its ticket. -/
theorem redeem_grant_iff (injective : Function.Injective platform.tokenDigest) (now : Instant)
    (store : TicketStore) (records kept : List TicketRecord)
    (simulates : Simulates platform settings now.monotonic store records kept)
    (ticket : Option String) (grant : TicketGrant) :
    (store.redeem platform ticket now).2 = some grant ↔
      ∃ record ∈ records, some record.ticket = ticket ∧ record.grant = grant ∧
        record.live now.monotonic = true := by
  cases ticket with
  | none => simp [TicketStore.redeem]
  | some ticket =>
      rw [TicketStore.redeem]
      split
      · rename_i empty
        constructor
        · intro impossible
          simp at impossible
        · rintro ⟨record, member, name, _⟩
          rw [Option.some.injEq, empty] at name
          exact absurd name (simulates.named record member)
      · have found := lookup_ticket platform settings injective now.monotonic store records kept
          simulates ticket
        have kept_of_live : ∀ record ∈ records, record.live now.monotonic = true →
            record ∈ kept := simulates.complete
        dsimp only
        cases entry : store.tickets.get? (platform.tokenDigest ticket) with
        | none =>
            constructor
            · intro impossible
              simp at impossible
            · rintro ⟨record, member, name, _, living⟩
              rw [Option.some.injEq] at name
              have present := (found (record.deadline, record.grant)).mpr
                ⟨record, kept_of_live record member living, name, rfl⟩
              rw [entry] at present
              simp at present
        | some value =>
            obtain ⟨old, inside, oldName, same⟩ := (found value).mp entry
            have outstanding := simulates.unmarked old inside
            have unique : ∀ record ∈ records, record.ticket = ticket → record = old := by
              intro record member name
              exact List.inj_on_of_nodup_map simulates.distinct member
                (simulates.part.subset inside) (name.trans oldName.symm)
            rw [← same]
            dsimp only
            split
            · rename_i expired
              constructor
              · intro impossible
                simp at impossible
              · rintro ⟨record, member, name, _, living⟩
                rw [Option.some.injEq] at name
                rw [unique record member name, TicketRecord.live, Bool.and_eq_true,
                  decide_eq_true_eq] at living
                exact absurd living.2 (not_lt.mpr expired)
            · rename_i early
              rw [Option.some.injEq]
              constructor
              · intro granted
                refine ⟨old, simulates.part.subset inside, by rw [oldName], granted, ?_⟩
                rw [TicketRecord.live, outstanding, Bool.true_and, decide_eq_true_eq]
                exact not_le.mp early
              · rintro ⟨record, member, name, granted, _⟩
                rw [Option.some.injEq] at name
                rw [← unique record member name]
                exact granted

/-- A redemption keeps the simulation. -/
theorem redeem_simulates (injective : Function.Injective platform.tokenDigest) (now : Instant)
    (store : TicketStore) (records kept : List TicketRecord)
    (simulates : Simulates platform settings now.monotonic store records kept)
    (ticket : Option String) :
    ∃ remaining, Simulates platform settings now.monotonic (store.redeem platform ticket now).1
      (referenceStep platform settings records ⟨now, .redeem ticket⟩) remaining := by
  let keep (record : TicketRecord) : Bool := ticket ≠ some record.ticket
  have fields : (store.redeem platform ticket now).1.ttlSeconds = store.ttlSeconds ∧
      (store.redeem platform ticket now).1.maxOutstanding = store.maxOutstanding := by
    unfold TicketStore.redeem
    split
    · exact ⟨rfl, rfl⟩
    · split
      · exact ⟨rfl, rfl⟩
      · dsimp only
        split
        · exact ⟨rfl, rfl⟩
        · split <;> exact ⟨rfl, rfl⟩
  have all : (∀ record ∈ kept, ticket ≠ some record.ticket) → kept.filter keep = kept := by
    intro other
    rw [List.filter_eq_self]
    intro record member
    exact decide_eq_true (other record member)
  refine ⟨kept.filter keep, mark_simulates platform settings now.monotonic store _ records kept
    simulates (TicketRecord.redeem ticket) keep fields ?_ ?_ ?_ ?_⟩
  · cases ticket with
    | none =>
        rw [all fun record _ => by simp]
        exact simulates.stored
    | some ticket =>
        rw [TicketStore.redeem]
        split
        · rename_i empty
          rw [all fun record member same => ?_]
          · exact simulates.stored
          · rw [Option.some.injEq, empty] at same
            exact simulates.named record (simulates.part.subset member) same.symm
        · dsimp only
          cases entry : store.tickets.get? (platform.tokenDigest ticket) with
          | none =>
              rw [all fun record member same => ?_]
              · exact simulates.stored
              · rw [Option.some.injEq] at same
                have present := (lookup_ticket platform settings injective now.monotonic store
                  records kept simulates ticket (record.deadline, record.grant)).mpr
                    ⟨record, member, same.symm, rfl⟩
                rw [entry] at present
                simp at present
          | some value =>
              have erased : (store.tickets.erase (platform.tokenDigest ticket)).items =
                  (kept.filter keep).map (TicketRecord.item platform) := by
                rw [Dict.items_erase, simulates.stored, List.filter_map]
                congr 1
                apply List.filter_congr
                intro record _
                rw [Bool.eq_iff_iff, Function.comp_apply, decide_eq_true_eq, decide_eq_true_eq,
                  TicketRecord.item, ne_eq, ne_eq, Option.some.injEq, injective.eq_iff, eq_comm]
              dsimp only
              split <;> exact erased
  · intro record
    rw [TicketRecord.redeem]
    split <;> rfl
  · intro record other
    rw [TicketRecord.redeem, if_neg (by simpa [keep] using other)]
  · intro record hit
    rw [TicketRecord.redeem, if_pos (by simpa [keep] using hit)]
    simp [TicketRecord.outstanding]

end Simulation

/-- Dropping leaves a record alone or marks one of the oldest live records. -/
theorem mem_dropOldest (now : Seconds) (count : Nat) (records : List TicketRecord)
    (record : TicketRecord) (member : record ∈ dropOldest now count records) :
    record ∈ records ∨
      ∃ old ∈ (records.filter (TicketRecord.live now)).take count, record = old.drop := by
  induction records generalizing count with
  | nil => cases count <;> simp [dropOldest] at member
  | cons first rest ih =>
      cases count with
      | zero => exact .inl member
      | succ count =>
          rw [dropOldest] at member
          cases alive : first.live now with
          | true =>
              rw [alive, if_pos rfl, List.mem_cons] at member
              rw [List.filter_cons, alive, if_pos rfl, List.take_succ_cons]
              rcases member with same | member
              · exact .inr ⟨first, List.mem_cons_self, same⟩
              · rcases ih count member with inside | ⟨old, inside, same⟩
                · exact .inl (List.mem_cons_of_mem _ inside)
                · exact .inr ⟨old, List.mem_cons_of_mem _ inside, same⟩
          | false =>
              rw [alive, if_neg (by simp), List.mem_cons] at member
              rw [List.filter_cons, alive, if_neg (by simp)]
              rcases member with same | member
              · exact .inl (by rw [same]; exact List.mem_cons_self)
              · rcases ih (count + 1) member with inside | found
                · exact .inl (List.mem_cons_of_mem _ inside)
                · exact .inr found

end OperationsConsole.Session
