/-
This file proves the contract of the ticket store over every run.
The records of the reference tell what each redemption must answer.
-/

import OperationsConsole.Session.TicketReference

namespace OperationsConsole.Session

open Library

/-- A record tells when its ticket was issued and which later calls marked it. -/
def RecordHistory (platform : Platform) (settings : TicketSettings) (history : List TicketStep)
    (record : TicketRecord) : Prop :=
  ∃ newer older, history = newer ++
      ⟨record.issuedAt, .issue record.grant.session record.grant.token record.ticket⟩ :: older ∧
    record.deadline = record.issuedAt.monotonic +
      max (min settings.ttlSeconds (record.grant.session.secondsLeft record.issuedAt.wall)) 0 ∧
    (record.redeemed = true ↔ ∃ step ∈ newer, step.call = .redeem (some record.ticket)) ∧
    (record.purged = true ↔
      ∃ step ∈ newer, step.call = .purge (platform.tokenDigest record.grant.token))

/-- The contract of the ticket store over a run. -/
structure TicketContract (platform : Platform) (settings : TicketSettings)
    (history : List TicketStep) : Prop where
  granted : ∀ now ticket earlier, ⟨now, .redeem ticket⟩ :: earlier <:+ history → ∀ grant,
    ((storeAfter platform settings earlier).apply platform ⟨now, .redeem ticket⟩).2 = some grant ↔
      ∃ record ∈ referenceAfter platform settings earlier, some record.ticket = ticket ∧
        record.grant = grant ∧ now.monotonic < record.deadline ∧ record.redeemed = false ∧
        record.purged = false ∧ record.dropped = false
  recorded : ∀ now session token ticket, ⟨now, .issue session token ticket⟩ ∈ history →
    ∃ record ∈ referenceAfter platform settings history, record.ticket = ticket ∧
      record.grant = ⟨session, token⟩ ∧ record.issuedAt = now
  marked : ∀ record ∈ referenceAfter platform settings history,
    RecordHistory platform settings history record
  overflow : ∀ now session token ticket earlier,
    ⟨now, .issue session token ticket⟩ :: earlier <:+ history →
      let records := referenceAfter platform settings earlier
      let live := records.filter (TicketRecord.live now.monotonic)
      ∀ record ∈ referenceAfter platform settings (⟨now, .issue session token ticket⟩ :: earlier),
        record.dropped = true → record ∈ records ∨
          (∃ old ∈ live.take (live.length + 1 - settings.maxOutstanding), record = old.drop) ∨
          settings.maxOutstanding = 0 ∧ record.ticket = ticket
  once : (grantedTickets platform settings history).Nodup
  bounded : ∀ now session token ticket earlier,
    ⟨now, .issue session token ticket⟩ :: earlier <:+ history →
      (storeAfter platform settings (⟨now, .issue session token ticket⟩ :: earlier)).tickets.length ≤
        settings.maxOutstanding
  others : ∀ now key earlier, ⟨now, .purge key⟩ :: earlier <:+ history →
    ∀ item ∈ (storeAfter platform settings earlier).tickets.items,
      platform.tokenDigest item.2.2.token ≠ key →
        item ∈ (storeAfter platform settings (⟨now, .purge key⟩ :: earlier)).tickets.items

section Run

variable (platform : Platform) (settings : TicketSettings)

theorem storeAfter_cons (step : TicketStep) (earlier : List TicketStep) :
    storeAfter platform settings (step :: earlier) =
      ((storeAfter platform settings earlier).apply platform step).1 := rfl

theorem referenceAfter_cons (step : TicketStep) (earlier : List TicketStep) :
    referenceAfter platform settings (step :: earlier) =
      referenceStep platform settings (referenceAfter platform settings earlier) step := rfl

theorem TicketRun.tail (step : TicketStep) (earlier : List TicketStep)
    (run : TicketRun (step :: earlier)) : TicketRun earlier := by
  obtain ⟨ordered, distinct, nonempty⟩ := run
  rw [List.map_cons, List.pairwise_cons] at ordered
  have made : issues earlier <:+ issues (step :: earlier) := by
    rw [issues, issues, List.filterMap_cons]
    split
    · exact List.suffix_rfl
    · exact List.suffix_cons _ _
  have minted : mintedTickets earlier <:+ mintedTickets (step :: earlier) := made.map Prod.fst
  exact ⟨ordered.2, distinct.sublist minted.sublist, fun member => nonempty (minted.subset member)⟩

theorem TicketRun.suffix (history part : List TicketStep) (run : TicketRun history)
    (suffix : part <:+ history) : TicketRun part := by
  induction history with
  | nil =>
      rw [List.suffix_nil.mp suffix]
      exact run
  | cons step earlier ih =>
      rw [List.suffix_cons_iff] at suffix
      rcases suffix with whole | inside
      · rw [whole]
        exact run
      · exact ih (TicketRun.tail step earlier run) inside

/-- The issue of a record. -/
def TicketRecord.issued (record : TicketRecord) : String × TicketGrant × Instant :=
  (record.ticket, record.grant, record.issuedAt)

/-- The reference records exactly the issues of the run, the oldest first. -/
theorem reference_issues (history : List TicketStep) :
    (referenceAfter platform settings history).map TicketRecord.issued =
      (issues history).reverse := by
  induction history with
  | nil => rfl
  | cons step earlier ih =>
      rw [referenceAfter_cons, referenceStep, issues, List.filterMap_cons]
      cases step.call with
      | issue session token ticket =>
          dsimp only
          rw [List.map_append, dropOldest_map _ _ _ _ fun _ => rfl, ih, List.reverse_cons]
          rfl
      | redeem ticket =>
          dsimp only
          rw [List.map_map, ← issues, ← ih]
          apply List.map_congr_left
          intro record _
          rw [Function.comp_apply, TicketRecord.redeem]
          split <;> rfl
      | purge key =>
          dsimp only
          rw [List.map_map, ← issues, ← ih]
          apply List.map_congr_left
          intro record _
          rw [Function.comp_apply, TicketRecord.purge]
          split <;> rfl

theorem reference_tickets (history : List TicketStep) :
    (referenceAfter platform settings history).map TicketRecord.ticket =
      (mintedTickets history).reverse := by
  rw [mintedTickets, ← List.map_reverse, ← reference_issues platform settings, List.map_map]
  rfl

/-- Every run of the store is simulated by the reference. -/
theorem run_simulates (injective : Function.Injective platform.tokenDigest)
    (history : List TicketStep) (run : TicketRun history) (now : Seconds)
    (later : ∀ step ∈ history, step.now.monotonic ≤ now) :
    ∃ kept, Simulates platform settings now (storeAfter platform settings history)
      (referenceAfter platform settings history) kept := by
  induction history generalizing now with
  | nil => exact ⟨[], rfl, rfl, rfl, List.Sublist.slnil, by simp, by simp [referenceAfter],
      List.nodup_nil, by simp [referenceAfter]⟩
  | cons step earlier ih =>
      have ordered := run.ordered
      rw [List.map_cons, List.pairwise_cons] at ordered
      obtain ⟨kept, before⟩ := ih (TicketRun.tail step earlier run) step.now.monotonic
        fun other member => ordered.1 _ (List.mem_map.mpr ⟨other, member, rfl⟩)
      suffices ∃ remaining, Simulates platform settings step.now.monotonic
          (storeAfter platform settings (step :: earlier))
          (referenceAfter platform settings (step :: earlier)) remaining by
        obtain ⟨remaining, simulates⟩ := this
        exact ⟨remaining, simulates_later platform settings _ now _ _ _ simulates
          (later step List.mem_cons_self)⟩
      rw [storeAfter_cons, referenceAfter_cons]
      obtain ⟨instant, call⟩ := step
      cases call with
      | issue session token ticket =>
          have distinct := run.distinct
          have nonempty := run.nonempty
          rw [mintedTickets, issues, List.filterMap_cons] at distinct nonempty
          apply issue_simulates platform settings injective instant _ _ kept before
          · rw [reference_tickets, List.mem_reverse]
            exact (List.nodup_cons.mp distinct).1
          · intro empty
            exact nonempty (by rw [empty]; exact List.mem_cons_self)
      | redeem ticket =>
          exact redeem_simulates platform settings injective instant _ _ kept before ticket
      | purge key => exact purge_simulates platform settings instant _ _ kept before key

/-- Every record tells its own history. -/
theorem reference_history (history : List TicketStep) (record : TicketRecord)
    (member : record ∈ referenceAfter platform settings history) :
    RecordHistory platform settings history record := by
  induction history generalizing record with
  | nil => simp [referenceAfter] at member
  | cons step earlier ih =>
      have unmarked : ∀ old ∈ referenceAfter platform settings earlier,
          step.call ≠ .redeem (some old.ticket) →
          step.call ≠ .purge (platform.tokenDigest old.grant.token) →
          RecordHistory platform settings (step :: earlier) old := by
        intro old inside kept alive
        obtain ⟨newer, older, split, deadline, redeemed, purged⟩ := ih old inside
        refine ⟨step :: newer, older, by rw [split, List.cons_append], deadline, ?_, ?_⟩
        · rw [redeemed, List.exists_mem_cons_iff]
          exact (or_iff_right kept).symm
        · rw [purged, List.exists_mem_cons_iff]
          exact (or_iff_right alive).symm
      rw [referenceAfter_cons, referenceStep] at member
      cases call : step.call with
      | issue session token ticket =>
          rw [call] at member unmarked
          dsimp only at member
          rw [List.mem_append, List.mem_singleton] at member
          rcases member with member | minted
          · rcases mem_dropOldest _ _ _ _ member with inside | ⟨old, inside, same⟩
            · exact unmarked record inside (by simp) (by simp)
            · have known := (List.mem_filter.mp (List.mem_of_mem_take inside)).1
              rw [same]
              exact unmarked old known (by simp) (by simp)
          · rw [minted]
            exact ⟨[], earlier, by rw [List.nil_append, ← call], rfl, by simp, by simp⟩
      | redeem ticket =>
          rw [call] at member unmarked
          obtain ⟨old, inside, same⟩ := List.mem_map.mp member
          rw [TicketRecord.redeem] at same
          split at same
          · rename_i hit
            obtain ⟨newer, older, split, deadline, _, purged⟩ := ih old inside
            rw [← same]
            refine ⟨step :: newer, older, by rw [split, List.cons_append], deadline, ?_, ?_⟩
            · exact iff_of_true rfl ⟨step, List.mem_cons_self, by rw [call, hit]⟩
            · rw [purged, List.exists_mem_cons_iff, call]
              simp
          · rename_i missed
            rw [← same]
            exact unmarked old inside (by simpa using missed) (by simp)
      | purge key =>
          rw [call] at member unmarked
          obtain ⟨old, inside, same⟩ := List.mem_map.mp member
          rw [TicketRecord.purge] at same
          split at same
          · rename_i hit
            obtain ⟨newer, older, split, deadline, redeemed, _⟩ := ih old inside
            rw [← same]
            refine ⟨step :: newer, older, by rw [split, List.cons_append], deadline, ?_, ?_⟩
            · rw [redeemed, List.exists_mem_cons_iff, call]
              simp
            · exact iff_of_true rfl ⟨step, List.mem_cons_self, by rw [call, hit]⟩
          · rename_i missed
            rw [← same]
            exact unmarked old inside (by simp) (by
              intro equal
              rw [TicketCall.purge.injEq] at equal
              exact missed equal.symm)

/-- A redeemed record stays redeemed under one more call. -/
theorem redeemed_stays (step : TicketStep) (records : List TicketRecord) (ticket : String)
    (marked : ∃ record ∈ records, record.ticket = ticket ∧ record.redeemed = true) :
    ∃ record ∈ referenceStep platform settings records step,
      record.ticket = ticket ∧ record.redeemed = true := by
  obtain ⟨record, member, name, redeemed⟩ := marked
  rw [referenceStep]
  cases step.call with
  | issue session token other =>
      let view (record : TicketRecord) := (record.ticket, record.redeemed)
      have inside : view record ∈ records.map view := List.mem_map.mpr ⟨record, member, rfl⟩
      rw [← dropOldest_map view step.now.monotonic ((records.filter
        (TicketRecord.live step.now.monotonic)).length + 1 - settings.maxOutstanding) records
        fun _ => rfl] at inside
      obtain ⟨found, listed, same⟩ := List.mem_map.mp inside
      rw [Prod.mk.injEq] at same
      exact ⟨found, List.mem_append_left _ listed, same.1.trans name, same.2.trans redeemed⟩
  | redeem other =>
      refine ⟨record.redeem other, List.mem_map.mpr ⟨record, member, rfl⟩, ?_⟩
      rw [TicketRecord.redeem]
      split
      · exact ⟨name, rfl⟩
      · exact ⟨name, redeemed⟩
  | purge key =>
      refine ⟨record.purge platform key, List.mem_map.mpr ⟨record, member, rfl⟩, ?_⟩
      rw [TicketRecord.purge]
      split <;> exact ⟨name, redeemed⟩

section Contract

variable (injective : Function.Injective platform.tokenDigest)
include injective

/-- A redemption of a run grants exactly the live record of its ticket. -/
theorem run_grant_iff (now : Instant) (ticket : Option String) (earlier : List TicketStep)
    (run : TicketRun (⟨now, .redeem ticket⟩ :: earlier)) (grant : TicketGrant) :
    ((storeAfter platform settings earlier).apply platform ⟨now, .redeem ticket⟩).2 = some grant ↔
      ∃ record ∈ referenceAfter platform settings earlier, some record.ticket = ticket ∧
        record.grant = grant ∧ now.monotonic < record.deadline ∧ record.redeemed = false ∧
        record.purged = false ∧ record.dropped = false := by
  have ordered := run.ordered
  rw [List.map_cons, List.pairwise_cons] at ordered
  obtain ⟨kept, simulates⟩ := run_simulates platform settings injective earlier
    (TicketRun.tail _ earlier run) now.monotonic
    fun other member => ordered.1 _ (List.mem_map.mpr ⟨other, member, rfl⟩)
  rw [TicketStore.apply, redeem_grant_iff platform settings injective now _ _ kept simulates]
  apply exists_congr
  intro record
  simp only [TicketRecord.live, TicketRecord.outstanding, Bool.and_eq_true, Bool.not_eq_true',
    decide_eq_true_eq]
  tauto

/-- Every granted ticket of a run is marked as redeemed, and no ticket is granted twice. -/
theorem run_grants_once (history : List TicketStep) (run : TicketRun history) :
    (grantedTickets platform settings history).Nodup ∧
      ∀ ticket ∈ grantedTickets platform settings history,
        ∃ record ∈ referenceAfter platform settings history,
          record.ticket = ticket ∧ record.redeemed = true := by
  induction history with
  | nil => exact ⟨List.nodup_nil, by simp [grantedTickets]⟩
  | cons step earlier ih =>
      have tail := TicketRun.tail step earlier run
      obtain ⟨distinct, redeemed⟩ := ih tail
      have before : ∀ ticket ∈ grantedTickets platform settings earlier,
          ∃ record ∈ referenceAfter platform settings (step :: earlier),
            record.ticket = ticket ∧ record.redeemed = true := by
        intro ticket member
        exact redeemed_stays platform settings step _ ticket (redeemed ticket member)
      rw [grantedTickets]
      split
      · rename_i ticket grant call output
        obtain ⟨now, request⟩ := step
        simp only at call
        subst call
        obtain ⟨record, member, name, _, _, fresh, _⟩ :=
          (run_grant_iff platform settings injective now (some ticket) earlier run grant).mp output
        rw [Option.some.injEq] at name
        constructor
        · rw [List.nodup_cons]
          refine ⟨?_, distinct⟩
          intro again
          obtain ⟨other, listed, same, used⟩ := redeemed ticket again
          have unique :
              ((referenceAfter platform settings earlier).map TicketRecord.ticket).Nodup := by
            rw [reference_tickets, List.nodup_reverse]
            exact tail.distinct
          have equal := List.inj_on_of_nodup_map unique listed member (same.trans name.symm)
          rw [equal, fresh] at used
          simp at used
        · intro other member'
          rw [List.mem_cons] at member'
          rcases member' with same | old
          · refine ⟨record.redeem (some ticket), List.mem_map.mpr ⟨record, member, rfl⟩, ?_⟩
            rw [TicketRecord.redeem, if_pos (by rw [name])]
            exact ⟨name.trans same.symm, rfl⟩
          · exact before other old
      · exact ⟨distinct, before⟩

/-- The ticket store keeps its contract over every run. -/
theorem ticketStore_contract (history : List TicketStep) (run : TicketRun history) :
    TicketContract platform settings history := by
  refine ⟨?_, ?_, ?_, ?_, ?_, ?_, ?_⟩
  · intro now ticket earlier suffix
    exact run_grant_iff platform settings injective now ticket earlier
      (TicketRun.suffix history _ run suffix)
  · intro now session token ticket member
    have made : (ticket, (⟨session, token⟩ : TicketGrant), now) ∈ issues history :=
      List.mem_filterMap.mpr ⟨_, member, rfl⟩
    rw [← List.mem_reverse, ← reference_issues platform settings] at made
    obtain ⟨record, listed, same⟩ := List.mem_map.mp made
    rw [TicketRecord.issued, Prod.mk.injEq, Prod.mk.injEq] at same
    exact ⟨record, listed, same⟩
  · exact reference_history platform settings history
  · intro now session token ticket earlier _ records live record member dropped
    rw [referenceAfter_cons, referenceStep] at member
    dsimp only at member
    rw [List.mem_append, List.mem_singleton] at member
    rcases member with member | minted
    · rcases mem_dropOldest _ _ _ _ member with inside | found
      · exact .inl inside
      · exact .inr (.inl found)
    · rw [minted] at dropped
      exact .inr (.inr ⟨by simpa using dropped, by rw [minted]⟩)
  · exact (run_grants_once platform settings injective history run).1
  · intro now session token ticket earlier suffix
    have part := TicketRun.tail _ earlier (TicketRun.suffix history _ run suffix)
    have bound : (storeAfter platform settings earlier).maxOutstanding = settings.maxOutstanding := by
      have ordered := (TicketRun.suffix history _ run suffix).ordered
      rw [List.map_cons, List.pairwise_cons] at ordered
      obtain ⟨kept, simulates⟩ := run_simulates platform settings injective earlier part
        now.monotonic fun other member => ordered.1 _ (List.mem_map.mpr ⟨other, member, rfl⟩)
      exact simulates.bound
    rw [← bound, storeAfter_cons]
    exact Dict.length_trim_le _ _
  · intro now key earlier _ item member other
    rw [storeAfter_cons]
    exact List.mem_filter.mpr ⟨member, decide_eq_true other⟩

end Contract

end Run

/-- The contract holds of a run that redeems its only ticket twice. -/
theorem sample_contract :
    TicketContract samplePlatform {}
      [⟨⟨12, 1767225012⟩, .redeem (some "ticket")⟩, ⟨⟨11, 1767225011⟩, .redeem (some "ticket")⟩,
        ⟨⟨10, 1767225010⟩, .issue ⟨"1", "admin@example.org", 1767225600⟩ "bearer" "ticket"⟩] := by
  apply ticketStore_contract samplePlatform {} samplePlatform_injective
  refine ⟨?_, by decide, by decide⟩
  simp only [List.map_cons, List.map_nil, List.pairwise_cons, List.mem_cons, List.not_mem_nil,
    or_false, forall_eq_or_imp, forall_eq, List.Pairwise.nil, and_true, false_implies, implies_true]
  decide +kernel

end OperationsConsole.Session
