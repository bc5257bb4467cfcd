import DotmacErp.GL.ReversalCancels

/-!
# The two ends of a reversal

A reversed journal and its reversal point at each other: the original through `reversal_journal_id`,
the reversal through `reversed_journal_id`. `Links` says what the two records owe each other. The
automatic branch of `create_reversal` keeps both ends together, also when its posting is replayed:
the original is then still posted. The other calls look at one journal only: voiding or deleting a
draft reversal leaves the original pointing at it for good, and posting a draft reversal later
leaves its original posted.

`KeepsReversals` is the condition on one call under which it keeps both ends, read off the
state before the call; every run of such calls keeps `Links`.
-/

namespace DotmacErp

open Calendar Relational Session JournalService BasePostingAdapter LedgerPostingService
open ReversalService (storedReversal linkReversal markReversed postRequest marked)

variable {s s' : Db} {k : UUID} {journals : Table JournalEntry} {j : JournalEntry}

/-- What a journal with a reversal owes it: the reversal exists, points back, is not void, and is
in the ledger exactly when the journal is reversed. -/
def Links (journals : Table JournalEntry) : Prop :=
  ∀ k j r, journals.get? k = some j → j.reversalJournalId = some r →
    ∃ reversal, journals.get? r = some reversal ∧ reversal.reversedJournalId = some k ∧
      reversal.status ≠ .void ∧ (j.status = .reversed ↔ Booked reversal.status)

def IsReversal (journals : Table JournalEntry) (r : UUID) : Prop :=
  ∃ k j, journals.get? k = some j ∧ j.reversalJournalId = some r

instance (journals : Table JournalEntry) (r : UUID) : Decidable (IsReversal journals r) :=
  decidable_of_iff (journals.find? fun j => j.reversalJournalId = some r).isSome (by
    rw [Table.find?_isSome_iff, IsReversal]
    simp)

/-- A reversal is not voided or deleted, nor posted under a key that would not be live. -/
def KeepsReversals (s : Db) : Operation → Prop
  | .voidJournal _ k => ¬ IsReversal s.journals k
  | .deleteJournal _ k => ¬ IsReversal s.journals k
  | .postJournal org k _ key _ _ => ∀ j, s.journals.get? k = some j → j.status = .approved →
      IsReversal s.journals k →
      LiveKey s org (effectiveKey org k key)
  | .postToLedger org k _ posting => ∀ j, s.journals.get? k = some j → j.status = .approved →
      IsReversal s.journals k → LiveKey s org posting.idempotencyKey
  | _ => True

/-- `Links`, and the fact that only a booked journal has a reversal. -/
structure LinkState (journals : Table JournalEntry) : Prop where
  links : Links journals
  booked : ∀ k j r, journals.get? k = some j → j.reversalJournalId = some r → Booked j.status

theorem LinkState.of_empty (h : journals.rows = []) : LinkState journals := by
  have hnone : ∀ k j, journals.get? k ≠ some j := fun k j hj => by
    simpa [h] using Table.get?_eq_some.mp hj
  exact ⟨fun k j _ hj => absurd hj (hnone k j), fun k j _ hj => absurd hj (hnone k j)⟩

theorem LinkState.isSome (h : LinkState journals) {r : UUID} (hr : IsReversal journals r) :
    ∃ reversal, journals.get? r = some reversal := by
  obtain ⟨k, j, hj, hlink⟩ := hr
  obtain ⟨reversal, hreversal, _⟩ := h.links k j r hj hlink
  exact ⟨reversal, hreversal⟩

theorem LinkState.not_isReversal_next (h : LinkState journals) :
    ¬ IsReversal journals journals.next := by
  intro hr
  obtain ⟨reversal, hreversal⟩ := h.isSome hr
  rw [Table.get?_next] at hreversal
  exact absurd hreversal (by simp)

theorem LinkState.unlinked (h : LinkState journals) (hj : journals.get? k = some j)
    (hb : ¬ Booked j.status) : j.reversalJournalId = none := by
  cases hlink : j.reversalJournalId with
  | none => rfl
  | some r => exact absurd (h.booked k j r hj hlink) hb

/-! ### One table operation at a time -/

theorem LinkState.insert (h : LinkState journals) {journal : JournalEntry}
    (hnone : journal.reversalJournalId = none) : LinkState (journals.insert journal) := by
  have hold : ∀ k j r, (journals.insert journal).get? k = some j → j.reversalJournalId = some r →
      journals.get? k = some j := by
    intro k j r hj hlink
    rw [Table.get?_insert] at hj
    split_ifs at hj with hk
    · rw [← Option.some.inj hj, hnone] at hlink
      exact absurd hlink (by simp)
    · exact hj
  refine ⟨fun k j r hj hlink => ?_, fun k j r hj hlink =>
    h.booked k j r (hold k j r hj hlink) hlink⟩
  obtain ⟨reversal, hreversal, hrest⟩ := h.links k j r (hold k j r hj hlink) hlink
  exact ⟨reversal, Table.get?_insert_of_some hreversal journal, hrest⟩

/-- Updating a journal that has no reversal of its own: if it is one, it must stay on its side of
the ledger and must not become void. -/
theorem LinkState.modify (h : LinkState journals) {f : JournalEntry → JournalEntry}
    (hget : journals.get? k = some j) (hnone : j.reversalJournalId = none)
    (hlink : (f j).reversalJournalId = j.reversalJournalId)
    (hback : (f j).reversedJournalId = j.reversedJournalId)
    (hside : IsReversal journals k →
      (f j).status ≠ .void ∧ (Booked (f j).status ↔ Booked j.status)) :
    LinkState (journals.modify k f) := by
  have hold : ∀ k' j' r, (journals.modify k f).get? k' = some j' →
      j'.reversalJournalId = some r → k' ≠ k ∧ journals.get? k' = some j' := by
    intro k' j' r hj' hlink'
    rw [Table.get?_modify] at hj'
    split_ifs at hj' with hk
    · rw [hk, hget, Option.map_some, Option.some.injEq] at hj'
      rw [← hj', hlink, hnone] at hlink'
      exact absurd hlink' (by simp)
    · exact ⟨hk, hj'⟩
  refine ⟨fun k' j' r hj' hlink' => ?_, fun k' j' r hj' hlink' =>
    h.booked k' j' r (hold k' j' r hj' hlink').2 hlink'⟩
  obtain ⟨_, hj₀⟩ := hold k' j' r hj' hlink'
  obtain ⟨reversal, hreversal, hpoints, hvoid, hiff⟩ := h.links k' j' r hj₀ hlink'
  by_cases hr : r = k
  · rw [hr, hget, Option.some.injEq] at hreversal
    obtain ⟨hvoid', hbooked⟩ := hside ⟨k', j', hj₀, hr ▸ hlink'⟩
    refine ⟨f j, ?_, ?_, hvoid', ?_⟩
    · rw [hr, Table.get?_modify_self, hget, Option.map_some]
    · rw [hback, hreversal, hpoints]
    · rw [hbooked, hreversal, hiff]
  · refine ⟨reversal, ?_, hpoints, hvoid, hiff⟩
    rw [Table.get?_modify_of_ne hr, hreversal]

theorem LinkState.erase (h : LinkState journals) (hfree : ¬ IsReversal journals k) :
    LinkState (journals.erase k) := by
  have hold : ∀ k' j', (journals.erase k).get? k' = some j' → journals.get? k' = some j' := by
    intro k' j' hj'
    rw [Table.get?_erase] at hj'
    split_ifs at hj' with hk
    exact hj'
  refine ⟨fun k' j' r hj' hlink => ?_, fun k' j' r hj' => h.booked k' j' r (hold k' j' hj')⟩
  obtain ⟨reversal, hreversal, hrest⟩ := h.links k' j' r (hold k' j' hj') hlink
  have hr : r ≠ k := by
    intro hr
    exact hfree ⟨k', j', hold k' j' hj', hr ▸ hlink⟩
  refine ⟨reversal, ?_, hrest⟩
  rw [Table.get?_erase, if_neg hr, hreversal]

theorem LinkState.link (h : LinkState journals) {journals' : Table JournalEntry}
    {original updated reversal : JournalEntry} (hget : journals.get? k = some original)
    (hposted : original.status = .posted)
    (hjournals' : ∀ k', journals'.get? k' = if k' = k then some updated
      else if k' = journals.next then some reversal else journals.get? k')
    (hback : updated.reversedJournalId = original.reversedJournalId)
    (hlink : updated.reversalJournalId = some journals.next) (hbooked : Booked updated.status)
    (hpoints : reversal.reversedJournalId = some k) (hnone : reversal.reversalJournalId = none)
    (hvoid : reversal.status ≠ .void)
    (hside : updated.status = .reversed ↔ Booked reversal.status) : LinkState journals' := by
  have hne : journals.next ≠ k := Nat.ne_of_gt (Table.lt_next hget)
  have hbookedNow : Booked original.status := Or.inl hposted
  refine ⟨fun k' j' r hj' hlink' => ?_, fun k' j' r hj' hlink' => ?_⟩
  · rw [hjournals'] at hj'
    split_ifs at hj' with hk hnext
    · -- the original of the new pair
      obtain rfl : updated = j' := Option.some.inj hj'
      obtain rfl : journals.next = r := Option.mem_unique hlink hlink'
      refine ⟨reversal, ?_, hk ▸ hpoints, hvoid, hside⟩
      rw [hjournals', if_neg hne, if_pos rfl]
    · obtain rfl : reversal = j' := Option.some.inj hj'
      rw [hnone] at hlink'
      exact absurd hlink' (by simp)
    · -- an older pair, whose reversal may be the new original
      obtain ⟨old, hold, hpoints', hvoid', hiff⟩ := h.links k' j' r hj' hlink'
      have hr : r ≠ journals.next := by
        intro hr
        rw [hr, Table.get?_next] at hold
        exact absurd hold (by simp)
      by_cases hrk : r = k
      · rw [hrk, hget, Option.some.injEq] at hold
        refine ⟨updated, ?_, ?_, ?_, ?_⟩
        · rw [hjournals', if_pos hrk]
        · rw [hback, hold, hpoints']
        · rcases hbooked with hs | hs <;> simp [hs]
        · rw [hiff, ← hold]
          exact iff_of_true hbookedNow hbooked
      · refine ⟨old, ?_, hpoints', hvoid', hiff⟩
        rw [hjournals', if_neg hrk, if_neg hr, hold]
  · rw [hjournals'] at hj'
    split_ifs at hj' with hk hnext
    · obtain rfl : updated = j' := Option.some.inj hj'
      exact hbooked
    · obtain rfl : reversal = j' := Option.some.inj hj'
      rw [hnone] at hlink'
      exact absurd hlink' (by simp)
    · exact h.booked k' j' r hj' hlink'

/-! ### One call at a time -/

section Calls

variable {env : Env} {org user : UUID} {input : JournalInput}

theorem LinkState.post (h : LinkState s.journals) {request : PostingRequest}
    {result : PostingResult}
    (hpost : postJournalEntry request s = .ok result s')
    (hallowed : ∀ j, s.journals.get? request.journalEntryId = some j → j.status = .approved →
      IsReversal s.journals request.journalEntryId →
      LiveKey s request.organizationId request.idempotencyKey) :
    LinkState s'.journals := by
  rcases postJournalEntry_eq_ok hpost with ⟨_, _, _, _, _, hs⟩ |
    ⟨journal, batchId, periodId, hw, _⟩
  · rw [hs]
    exact h
  · have hunbooked : ¬ Booked journal.status := by simp [Booked, hw.approved]
    rw [hw.journals]
    refine h.modify hw.found (h.unlinked hw.found hunbooked) rfl rfl fun hr => ?_
    exact absurd (hallowed journal hw.found hw.approved hr) hw.notLive

theorem LinkState.postToLedger (h : LinkState s.journals)
    {posting : LedgerPosting} {r : AdapterResult}
    (hpost : postToLedger org k user posting s = .ok r s')
    (hallowed : ∀ j, s.journals.get? k = some j → j.status = .approved →
      IsReversal s.journals k → LiveKey s org posting.idempotencyKey) :
    LinkState s'.journals := by
  rcases postToLedger_eq_ok hpost with ⟨result, hledger, _⟩ |
    ⟨s₁, hrefused, hrevert, _⟩
  · exact h.post hledger hallowed
  · obtain ⟨batches, years, periods, rfl, _, _⟩ := hrefused
    rcases revertUnpostedJournal_eq_ok hrevert with
      ⟨⟨journal, hget, hunposted⟩, rfl⟩ | ⟨_, rfl⟩
    · have hunbooked : ¬ Booked journal.status := by simp [Booked, hunposted.1]
      have hdraft : (revert journal).status = .draft := rfl
      refine h.modify hget (h.unlinked hget hunbooked) rfl rfl fun _ => ⟨by simp [hdraft], ?_⟩
      exact iff_of_false (by simp [Booked, hdraft]) hunbooked
    · exact h

theorem LinkState.createApproveAndPost (h : LinkState s.journals)
    {posting : LedgerPosting} {r : Option UUID × AdapterResult}
    (hcall : createApproveAndPostJournal env org input user posting s =
      .ok r s') : LinkState s'.journals := by
  rw [createApproveAndPostJournal, bind_eq_ok] at hcall
  obtain ⟨x, s₁, hcreate, hcall⟩ := hcall
  rcases createAndApproveJournal_eq_ok hcreate with
    ⟨_, rfl, _, rfl⟩ | ⟨period, totals, rfl, _, _, _, hs₁⟩
  · obtain ⟨_, rfl⟩ := pure_eq_ok.mp hcall
    exact h
  · obtain ⟨result, s₂, hpost, hcall⟩ := bind_eq_ok.mp hcall
    obtain ⟨_, rfl⟩ := pure_eq_ok.mp hcall
    have hjournals : s₁.journals = s.journals.insert
        (approvedJournal env s org input user period.id totals) := by
      rw [hs₁]
      rfl
    have hadded : LinkState s₁.journals := by
      rw [hjournals]
      exact h.insert rfl
    refine hadded.postToLedger hpost fun _ _ _ hr => ?_
    obtain ⟨k', j', hj', hlink⟩ := hr
    rw [hjournals, Table.get?_insert] at hj'
    split_ifs at hj' with hk
    · rw [← Option.some.inj hj'] at hlink
      exact absurd hlink (by simp [approvedJournal,
        systemApproved, markApproved,
        markSubmitted, draftJournal, JournalEntry.stored])
    · exact absurd ⟨k', j', hj', hlink⟩ h.not_isReversal_next

theorem LinkState.createReversal (h : LinkState s.journals) {d : Date}
    {reason : String} {autoPost allow : Bool} {key : Option String} {session : Option UUID}
    {r : ReversalResult}
    (hcall : ReversalService.createReversal env org k d user reason autoPost key allow session s =
      .ok r s') :
    LinkState s'.journals := by
  cases autoPost with
  | false =>
    obtain ⟨original, period, hget, _, hposted, _, _, _, _, rfl⟩ :=
      ReversalService.createReversal_draft_eq_ok hcall
    have hdraft : (storedReversal env s original k period.id d user reason
        false).status = .draft := rfl
    have hstatus : (linkReversal s.journals.next original).status = .posted :=
      hposted
    refine h.link hget hposted (get?_withReversal hget) rfl rfl (Or.inl hposted) rfl rfl
      (by simp [hdraft]) ?_
    exact iff_of_false (by simp [hstatus]) (by simp [Booked, hdraft])
  | true =>
    by_cases hkey : LiveKey s org
      (ReversalService.effectiveKey org s.journals.next key)
    · obtain ⟨original, fiscalPeriodId, _, _, hget, _, hposted, _, _, _, _, _, hpost⟩ :=
        ReversalService.createReversal_auto_eq_ok hcall
      rcases hpost with ⟨_, rfl⟩ | ⟨hdead, _⟩
      · -- a replay: linked, the original posted and the reversal approved
        have happroved : (storedReversal env s original k fiscalPeriodId d user
            reason true).status = .approved := rfl
        have hstatus : (linkReversal s.journals.next original).status = .posted :=
          hposted
        refine h.link hget hposted (get?_withReversal hget) rfl rfl (Or.inl hposted) rfl rfl
          (by simp [happroved]) ?_
        exact iff_of_false (by simp [hstatus]) (by simp [Booked, happroved])
      · exact absurd hkey hdead
    obtain ⟨original, fiscalPeriodId, years, periods, batchId, periodId, hget, _, hposted, _,
      hw⟩ := createReversal_written hcall hkey
    have hne : s.journals.next ≠ k := Nat.ne_of_gt (Table.lt_next hget)
    have hself := hw.get?_self
    have hjournals : ∀ k', s'.journals.get? k' = if k' = k then
          some (markReversed
            (linkReversal s.journals.next original))
        else if k' = s.journals.next then some (markPosted
          (postRequest org s.journals.next d user original key allow session)
          batchId
          (storedReversal env s original k fiscalPeriodId d user reason true))
        else s.journals.get? k' := by
      intro k'
      by_cases hnext : k' = s.journals.next
      · rw [hnext, if_neg hne, if_pos rfl]
        exact hself
      · rw [hw.get?_of_ne hnext, marked, get?_withReversal hget, if_neg hnext,
          if_neg hnext]
    refine h.link hget hposted hjournals rfl rfl (Or.inr rfl) rfl rfl ?_
      (iff_of_true rfl (Or.inl rfl))
    simp [markPosted]

/-- **Every call that meets the condition keeps both ends.** -/
theorem LinkState.run {op : Operation} {u : PUnit} (h : LinkState s.journals)
    (hallowed : KeepsReversals s op) (hrun : op.run s = .ok u s') : LinkState s'.journals := by
  by_cases hop : op.onCalendar = true
  · obtain ⟨years, periods, _, rfl⟩ := Operation.onCalendar_frame hop hrun
    exact h
  cases op with
  | createJournal =>
    obtain ⟨_, hrun⟩ := discard_eq_ok.mp hrun
    obtain ⟨_, _, _, _, hadd⟩ := createJournal_eq_ok hrun
    obtain ⟨_, _, rfl⟩ := addJournal_eq_ok hadd
    exact h.insert rfl
  | updateJournal =>
    obtain ⟨journal, _, _, hget, _, hdraft, _, _, _, rfl⟩ :=
      updateJournal_eq_ok hrun
    have hnone := h.unlinked hget (by simp [Booked, hdraft])
    refine h.modify hget hnone rfl rfl fun _ => ?_
    simp [updated, updatedHeader, JournalEntry.stored, hdraft]
  | deleteJournal =>
    obtain ⟨_, _, _, _, _, rfl⟩ := deleteJournal_eq_ok hrun
    exact h.erase hallowed
  | submitJournal =>
    obtain ⟨journal, hget, _, hdraft, rfl⟩ := submitJournal_eq_ok hrun
    have hnone := h.unlinked hget (by simp [Booked, hdraft])
    refine h.modify hget hnone rfl rfl fun _ => ?_
    simp [markSubmitted, Booked, hdraft]
  | approveJournal =>
    obtain ⟨journal, hget, _, hsubmitted, rfl⟩ := approveJournal_eq_ok hrun
    have hnone := h.unlinked hget (by simp [Booked, hsubmitted])
    refine h.modify hget hnone rfl rfl fun _ => ?_
    simp [markApproved, Booked, hsubmitted]
  | postJournal =>
    obtain ⟨_, hrun⟩ := discard_eq_ok.mp hrun
    obtain ⟨_, _, _, _, ⟨_, rfl⟩ | ⟨_, _, hpost⟩⟩ := postJournal_eq_ok hrun
    · exact h
    · exact h.post hpost hallowed
  | voidJournal =>
    obtain ⟨journal, hget, _, hposted, hreversed, rfl⟩ := voidJournal_eq_ok hrun
    have hnone := h.unlinked hget (not_or.mpr ⟨hposted, hreversed⟩)
    exact h.modify hget hnone rfl rfl fun hr => absurd hr hallowed
  | createReversal =>
    obtain ⟨_, hrun⟩ := discard_eq_ok.mp hrun
    exact h.createReversal hrun
  | createApproveAndPostJournal =>
    obtain ⟨_, hrun⟩ := discard_eq_ok.mp hrun
    exact h.createApproveAndPost hrun
  | postToLedger =>
    obtain ⟨_, hrun⟩ := discard_eq_ok.mp hrun
    exact h.postToLedger hrun hallowed
  | external accounts bankAccounts recs =>
    obtain rfl := modify_eq_ok.mp hrun
    exact h
  | _ => exact absurd rfl hop

/-- **Reversal links.** In every state of a run all of whose calls meet the condition, a journal
with a reversal and its reversal agree: the reversal exists, points back and is not void, and the
journal is reversed exactly when the reversal is in the ledger. -/
theorem reversal_links (h : ledgerSystem.ReachableWithin KeepsReversals s) : Links s.journals := by
  have hstate : LinkState s.journals := by
    refine h.invariant (P := fun s => LinkState s.journals)
      (fun s hinit => LinkState.of_empty hinit.1) fun s op s' hlinks hallowed hstep => ?_
    obtain rfl : s' = commit op.run s := hstep
    exact commit_induction (P := fun s => LinkState s.journals) hlinks fun _ _ hrun =>
      hlinks.run hallowed hrun
  exact hstate.links

end Calls

/-! ### A voided draft reversal -/

def voidedReversalCalls : List Operation :=
  [.createJournal sampleEnv 0 sampleInput 7, .submitJournal 0 0 7, .approveJournal sampleEnv 0 0 8,
    .postJournal 0 0 8 none false none,
    .createReversal sampleEnv 0 0 january 8 "mistake" false none false none, .voidJournal 0 1]

/-- The original still points to its void reversal. -/
theorem reversal_link_void : ¬ ∀ s, ledgerSystem.Reachable s → Links s.journals := by
  intro h
  have hlinks := h _ (reachable_after (s := sampleDb) rfl rfl rfl voidedReversalCalls)
  obtain ⟨horiginal, hvoid⟩ : ((sampleDb.after voidedReversalCalls).journals.get? 0).any
        (fun j => j.reversalJournalId = some 1) = true ∧
      ((sampleDb.after voidedReversalCalls).journals.get? 1).all
        (fun j => j.status = .void) = true := by
    decide +kernel
  obtain ⟨j, hj, hlink⟩ := (Option.any_eq_true _ _).mp horiginal
  obtain ⟨reversal, hreversal, _, hne, _⟩ := hlinks 0 j 1 hj (of_decide_eq_true hlink)
  rw [hreversal, Option.all_some] at hvoid
  exact hne (of_decide_eq_true hvoid)

/-- The calls of the sample ledger, reversal included, meet the condition. -/
theorem reversal_links_sample : Links (sampleDb.after sampleCalls).journals := by
  have hpost : ¬ IsReversal (sampleDb.after (sampleCalls.take 3)).journals 0 := by
    decide +kernel
  have hallowed : AllowedAlong KeepsReversals sampleDb sampleCalls :=
    ⟨trivial, trivial, trivial, fun _ _ _ hr => absurd hr hpost, trivial, trivial⟩
  exact reversal_links ⟨sampleDb, init_of_empty rfl rfl rfl, runWithin_after hallowed⟩

end DotmacErp
