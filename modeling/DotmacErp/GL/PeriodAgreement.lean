import DotmacErp.GL.LedgerIdentity
import DotmacErp.GL.Permanence

/-!
# The period of a journal and the period of its rows

A journal is created in the most specific period that covers its posting date, in whatever
status; a posting goes to the most specific covering period that is usable at that moment. The
two are the same exactly when the journal's period is usable at the posting and none that
precedes it is (`PostsInto`). When they differ, the rows are in one period and the close gate
counts the journal in another, for good: neither side is ever corrected.

The automatic branch of `create_reversal` takes the posting's answer as the journal's period, so
its journals always agree; `post_journal` leaves the journal's period as creation resolved it.
-/

namespace DotmacErp

open Calendar Relational Session PeriodGuardService JournalService

variable {s s' t : Db} {org k user : UUID} {j : JournalEntry}

/-- The journals that `assess_periods` counts as posted in a period. It groups them by the period of
the journal and never looks at the ledger rows. -/
def PeriodCloseService.postedJournals (db : Db) (org periodId : UUID) :
    List (Stored JournalEntry) :=
  db.journals.select fun j => j.organizationId = org ∧ j.fiscalPeriodId = periodId ∧
    j.status = .posted

theorem PeriodCloseService.mem_postedJournals {db : Db} {periodId : UUID} {j :
    Stored JournalEntry} :
    j ∈ postedJournals db org periodId ↔ db.journals.get? j.id = some j.row ∧
      j.row.organizationId = org ∧ j.row.fiscalPeriodId = periodId ∧ j.row.status = .posted := by
  rw [postedJournals, Table.mem_select, decide_eq_true_iff]

/-- A posting on a date goes to a period: it is usable, and no covering period that precedes it
is. -/
def PostsInto (s : Db) (org : UUID) (d : Date) (allow : Bool) (periodId : UUID) : Prop :=
  ∃ before p after, coveringPeriods s org d = before ++ p :: after ∧
    p.id = periodId ∧ Usable allow p.row ∧
    ∀ q ∈ before, ¬ Usable allow q.row

def GateSees (t : Db) (k : UUID) : Prop :=
  ∀ j, t.journals.get? k = some j → j.status = .posted → ∀ periodId,
    ⟨k, j⟩ ∈ PeriodCloseService.postedJournals t j.organizationId periodId ↔
      ∃ row ∈ rowsOfJournal t.ledger k, row.fiscalPeriodId = periodId

/-- The rows of the journal are in its period. -/
def PeriodsAgree (t : Db) (k : UUID) : Prop :=
  (∃ j, t.journals.get? k = some j ∧
    ∀ row ∈ rowsOfJournal t.ledger k, row.fiscalPeriodId = j.fiscalPeriodId) ∧ GateSees t k

/-! ### Every journal has a covering period -/

theorem HasPeriod.age {periods periods' : Table FiscalPeriod} (h : HasPeriod periods j)
    (hage : PeriodsAge periods periods') : HasPeriod periods' j := by
  obtain ⟨p, hp, horg, hcovers⟩ := h
  obtain ⟨p', hp', hages⟩ := hage _ p hp
  exact ⟨p', hp', hages.organizationId.trans horg, hages.covers hcovers⟩

def JournalsHavePeriods (s : Db) : Prop :=
  ∀ k j, s.journals.get? k = some j → HasPeriod s.fiscalPeriods j

theorem Write.journalsHavePeriods (h : Write s s') (hs : JournalsHavePeriods s) :
    JournalsHavePeriods s' := by
  have hmodify : ∀ {k₀ : UUID} {j₀ : JournalEntry} {f : JournalEntry → JournalEntry}
      {journals : Table JournalEntry}, journals.get? k₀ = some j₀ →
      (∀ k j, journals.get? k = some j → HasPeriod s.fiscalPeriods j) →
      HasPeriod s.fiscalPeriods (f j₀) →
      ∀ k j, (journals.modify k₀ f).get? k = some j → HasPeriod s.fiscalPeriods j := by
    intro k₀ j₀ f journals hget hall hf k j hj
    rw [Table.get?_modify] at hj
    split_ifs at hj with hk
    · rw [hk, hget, Option.map_some, Option.some.injEq] at hj
      exact hj ▸ hf
    · exact hall k j hj
  have hinsert : ∀ {journal : JournalEntry}, HasPeriod s.fiscalPeriods journal →
      ∀ k j, (s.journals.insert journal).get? k = some j → HasPeriod s.fiscalPeriods j := by
    intro journal hjournal k j hj
    rw [Table.get?_insert] at hj
    split_ifs at hj
    · exact Option.some.inj hj ▸ hjournal
    · exact hs k j hj
  cases h with
  | add journal lines _ _ hperiod => exact hinsert hperiod
  | addReversal k original journal hget _ _ _ _ _ hperiod =>
    exact hmodify (Table.get?_insert_of_some hget journal) (hinsert hperiod) (hs k original hget)
  | rewrite k journal f lines hget _ _ _ hperiod => exact hmodify hget hs hperiod
  | erase k journal =>
    intro k' j' hj'
    rw [Table.get?_erase] at hj'
    split_ifs at hj'
    exact hs k' j' hj'
  | move k journal f hget _ _ hkeeps hperiod =>
    refine hmodify hget hs ?_
    obtain ⟨p, hp, horg, hcovers⟩ := hs k journal hget
    refine ⟨p, ?_, ?_, ?_⟩
    · rw [(hperiod journal).1, hp]
    · rw [(hkeeps journal).1, horg]
    · rw [(hperiod journal).2]
      exact hcovers
  | reverse k journal hget => exact hmodify hget hs (hs k journal hget)
  | reset request batches => exact hs
  | post request journal batchId periodId _ _ hw =>
    intro k' j' hj'
    have hmodified := hmodify (f := LedgerPostingService.markPosted request batchId) hw.found hs
      (hs _ journal hw.found)
    rw [hw.journals] at hj'
    exact (hmodified k' j' hj').age hw.gated.age
  | calendar years periods hage => exact fun k' j' hj' => (hs k' j' hj').age hage
  | external accounts bankAccounts recs => exact hs

theorem journalsHavePeriods_of_reachable (h : ledgerSystem.Reachable s) :
    JournalsHavePeriods s := by
  refine reachable_of_writes h (fun s hj _ _ k j hget => ?_) fun _ _ hs hw =>
    hw.journalsHavePeriods hs
  simpa [hj] using Table.get?_eq_some.mp hget

/-! ### Where a posting goes -/

section Gate

variable {d : Date} {allow : Bool} {session : Option UUID} {periods : Table FiscalPeriod}

theorem postsInto_iff_find {periodId : UUID} :
    PostsInto s org d allow periodId ↔
      ((coveringPeriods s org d).find? fun r =>
        Usable allow r.row).any (fun q => q.id = periodId) = true := by
  rw [Option.any_eq_true]
  constructor
  · rintro ⟨before, p, after, hsplit, hp, husable, hbefore⟩
    have hfirst : (coveringPeriods s org d).find? (fun r =>
        Usable allow r.row) = some p :=
      List.find?_eq_some_iff_append.mpr
        ⟨by simpa using husable, before, after, hsplit, by simpa using hbefore⟩
    exact ⟨p, hfirst, by simpa using hp⟩
  · rintro ⟨p, hfirst, hp⟩
    obtain ⟨husable, before, after, hsplit, hbefore⟩ := List.find?_eq_some_iff_append.mp hfirst
    exact ⟨before, p, after, hsplit, by simpa using hp, by simpa using husable,
      by simpa using hbefore⟩

instance (periodId : UUID) : Decidable (PostsInto s org d allow periodId) :=
  decidable_of_iff _ postsInto_iff_find.symm

theorem PeriodGuardService.Gated.eq_iff_postsInto {periodId p : UUID}
    (h : Gated org d allow session s periods p)
    (hstored : ∃ q, s.fiscalPeriods.get? periodId = some q) :
    p = periodId ↔ PostsInto s org d allow periodId := by
  rw [postsInto_iff_find]
  rcases h with ⟨q, hresolve, haccepts, hp, _⟩ | ⟨hnone, _, hp, _⟩
  · have hfind : (coveringPeriods s org d).find? (fun r => Usable allow r.row) = some q := by
      cases hfind : (coveringPeriods s org d).find? (fun r => Usable allow r.row) with
      | none =>
        have hmem := mem_of_resolve hresolve
        exact absurd haccepts.usable (by simpa using List.find?_eq_none.mp hfind q hmem)
      | some r =>
        rw [resolvePeriodForDate, if_pos rfl, hfind, Option.some_or] at hresolve
        exact hresolve
    rw [hfind, hp, Option.any_some, decide_eq_true_iff]
  · -- a period just created was not stored before
    refine iff_of_false (fun heq => ?_) (by simp [hnone])
    obtain ⟨q, hq⟩ := hstored
    have hlt := Table.lt_next hq
    rw [← heq, hp] at hlt
    exact absurd hlt (Nat.lt_irrefl _)

end Gate

/-! ### Agreement -/

/-- What a posting leaves: a booked journal in the period creation gave it, and all its rows,
at least one, in the period the gate answered with. -/
theorem postJournal_periods {key : Option String} {allow : Bool} {session : Option UUID}
    {r : JournalEntry} (hs : Books s) (hj : s.journals.get? k = some j)
    (happroved : j.status = .approved)
    (h : postJournal org k user key allow session s = .ok r s')
    (hr : r.status = .posted) :
    ∃ p, Gated org j.postingDate allow session s s'.fiscalPeriods p ∧
      s'.journals.get? k = some r ∧ r.fiscalPeriodId = j.fiscalPeriodId ∧
      rowsOfJournal s'.ledger k ≠ [] ∧
      ∀ row ∈ rowsOfJournal s'.ledger k, row.fiscalPeriodId = p := by
  obtain ⟨j', hj', _, hget, hcase⟩ := postJournal_eq_ok h
  obtain rfl : j = j' := Option.mem_unique hj hj'
  rcases hcase with ⟨hposted, _⟩ | ⟨_, result, hpost⟩
  · rw [happroved] at hposted
    exact absurd hposted (by simp)
  rcases LedgerPostingService.postJournalEntry_eq_ok hpost with ⟨_, _, _, _, _, hsame⟩ |
    ⟨journal, batchId, periodId, hw, _⟩
  · -- a replay leaves the journal approved
    rw [hsame, hj, Option.some.injEq] at hget
    rw [← hget, happroved] at hr
    exact absurd hr (by simp)
  · obtain rfl : j = journal := Option.some.inj (hj.symm.trans hw.found)
    have hr' : r = LedgerPostingService.markPosted
        (postRequest org k user j key allow session) batchId j :=
      Option.some.inj (hget.symm.trans hw.get?_self)
    have hbooks := hs.post rfl hw
    have hbooked : Booked r.status := Or.inl hr
    refine ⟨periodId, hw.gated, hget, by rw [hr']; rfl, ?_, ?_⟩
    · intro hnil
      obtain ⟨_, _, _, _, _, _, hrecords, _⟩ := (hbooks.filed k r hget).booked hbooked
      rw [hnil, List.forall₂_nil_right_iff] at hrecords
      exact (hbooks.filed k r hget).lines hrecords
    · have hunbooked : ¬ Booked j.status := by simp [Booked, happroved]
      have hrows : rowsOfJournal s'.ledger k = LedgerPostingService.rowsOf s
          (postRequest org k user j key allow session) j batchId periodId := by
        have happend := rowsOfJournal_post (k := k) hw
        rwa [if_pos (show k = (postRequest org k user j key allow
          session).journalEntryId from rfl), ((hs.filed k j hj).unbooked hunbooked).1,
          List.nil_append] at happend
      intro row hrow
      rw [hrows] at hrow
      exact (mem_rowsOf hrow).2.2.1

/-- A booked journal agrees with its rows, and the gate with both, exactly when the rows are
in the journal's period. -/
theorem periodsAgree_iff {p : UUID} (hget : t.journals.get? k = some j)
    (hne : rowsOfJournal t.ledger k ≠ [])
    (hrows : ∀ row ∈ rowsOfJournal t.ledger k, row.fiscalPeriodId = p) :
    PeriodsAgree t k ↔ p = j.fiscalPeriodId := by
  obtain ⟨row, hrow⟩ := List.exists_mem_of_ne_nil _ hne
  constructor
  · rintro ⟨⟨j', hj', hagree⟩, _⟩
    obtain rfl : j = j' := Option.mem_unique hget hj'
    exact (hrows row hrow).symm.trans (hagree row hrow)
  · intro hp
    refine ⟨⟨j, hget, fun row hrow => (hrows row hrow).trans hp⟩, ?_⟩
    intro j' hj' hposted periodId
    obtain rfl : j = j' := Option.mem_unique hget hj'
    rw [PeriodCloseService.mem_postedJournals]
    constructor
    · rintro ⟨_, _, hperiod, _⟩
      exact ⟨row, hrow, (hrows row hrow).trans (hp.trans hperiod)⟩
    · rintro ⟨row', hrow', hperiod⟩
      exact ⟨hget, rfl, (hp.symm.trans (hrows row' hrow').symm).trans hperiod, hposted⟩

/-- **Where a journal and the ledger agree.** When `post_journal` posts an approved journal,
the journal and its rows are in one period, and the close gate counts the journal exactly
where its rows are, from then on and along every run, if and only if the journal's period is
the one a posting on its date goes to: usable, with no usable covering period preceding it. -/
theorem journal_period_agrees_iff {key : Option String} {allow : Bool} {session : Option UUID}
    {r : JournalEntry} (hs : ledgerSystem.Reachable s) (hj : s.journals.get? k = some j)
    (happroved : j.status = .approved)
    (h : postJournal org k user key allow session s = .ok r s')
    (hr : r.status = .posted) (hrun : ledgerSystem.Run s' t) :
    PeriodsAgree t k ↔ PostsInto s org j.postingDate allow j.fiscalPeriodId := by
  obtain ⟨p, hgated, hget, hperiod, hne, hrows⟩ :=
    postJournal_periods (books_of_reachable hs) hj happroved h hr
  obtain ⟨⟨j', hj', hlater⟩, hsame⟩ := run_permanent hrun k r hget (Or.inl hr)
  obtain ⟨q, hq, _⟩ := journalsHavePeriods_of_reachable hs k j hj
  rw [← hgated.eq_iff_postsInto ⟨q, hq⟩, ← hperiod, ← hlater.fiscalPeriodId]
  refine (periodsAgree_iff hj' ?_ ?_)
  · rwa [hsame]
  · rwa [hsame]

/-! ### An adjustment period within the month -/

/-- A one-day adjustment period within the open January, and an approved journal of that day. -/
def splitPeriodCalls : List Operation :=
  [.createPeriod 0
      { fiscalYearId := 0, periodNumber := 13, periodName := "Adjustments", startDate := january
        endDate := january, isAdjustmentPeriod := true },
    .createJournal sampleEnv 0 sampleInput 7, .submitJournal 0 0 7, .approveJournal sampleEnv 0 0 8]

def splitPeriodDb : Db := sampleDb.after splitPeriodCalls

def samplePosting : Tx JournalEntry := postJournal 0 0 8 none false none

/-- The journal is in the adjustment period, its rows are in January. -/
theorem journal_period_split :
    ¬ ∀ s, ledgerSystem.Reachable s → ∀ org k user key allow session j r s',
      s.journals.get? k = some j → j.status = .approved →
      postJournal org k user key allow session s = .ok r s' →
      r.status = .posted → PeriodsAgree s' k := by
  intro h
  obtain ⟨happroved, hreturns, hposted, hrows⟩ :
      (splitPeriodDb.journals.get? 0).any (fun j => j.status = .approved) = true ∧
      returns samplePosting splitPeriodDb = true ∧
      ((commit samplePosting splitPeriodDb).journals.get? 0).any
        (fun j => j.status = .posted ∧ j.fiscalPeriodId = 1) = true ∧
      ∃ row ∈ rowsOfJournal (commit samplePosting splitPeriodDb).ledger 0,
        row.fiscalPeriodId = 0 := by
    decide +kernel
  obtain ⟨j, hj, hstatus⟩ := (Option.any_eq_true _ _).mp happroved
  obtain ⟨r, s', hcall⟩ := returns_iff.mp hreturns
  obtain ⟨_, _, _, hget, _⟩ := postJournal_eq_ok hcall
  rw [commit_of_ok hcall, hget, Option.any_some, decide_eq_true_iff] at hposted
  rw [commit_of_ok hcall] at hrows
  obtain ⟨⟨j', hj', hagree⟩, _⟩ := h splitPeriodDb (reachable_after rfl rfl rfl splitPeriodCalls)
    0 0 8 none false none j r s' hj (of_decide_eq_true hstatus) hcall hposted.1
  obtain ⟨row, hrow, hperiod⟩ := hrows
  obtain rfl : r = j' := Option.mem_unique hget hj'
  have hsplit := (hagree row hrow).trans hposted.2
  exact absurd (hperiod.symm.trans hsplit) (by decide)

/-- Without the adjustment period the journal and its rows stay in January. -/
theorem journal_period_agrees_sample :
    ∃ r s', samplePosting (sampleDb.after (sampleCalls.take 3)) = .ok r s' ∧
      ∀ t, ledgerSystem.Run s' t → PeriodsAgree t 0 := by
  obtain ⟨happroved, hreturns, hposted⟩ :
      ((sampleDb.after (sampleCalls.take 3)).journals.get? 0).any
        (fun j => j.status = .approved ∧
          PostsInto (sampleDb.after (sampleCalls.take 3)) 0 j.postingDate false j.fiscalPeriodId) =
        true ∧
      returns samplePosting (sampleDb.after (sampleCalls.take 3)) = true ∧
      ((commit samplePosting (sampleDb.after (sampleCalls.take 3))).journals.get? 0).any
        (fun j => j.status = .posted) = true := by
    decide +kernel
  obtain ⟨j, hj, hpred⟩ := (Option.any_eq_true _ _).mp happroved
  obtain ⟨hstatus, hposts⟩ := of_decide_eq_true hpred
  obtain ⟨r, s', hcall⟩ := returns_iff.mp hreturns
  obtain ⟨_, _, _, hget, _⟩ := postJournal_eq_ok hcall
  rw [commit_of_ok hcall, hget, Option.any_some, decide_eq_true_iff] at hposted
  exact ⟨r, s', hcall, fun t hrun => (journal_period_agrees_iff
    (reachable_after rfl rfl rfl (sampleCalls.take 3)) hj hstatus hcall hposted hrun).mpr hposts⟩

end DotmacErp
