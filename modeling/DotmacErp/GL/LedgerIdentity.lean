import DotmacErp.GL.Books

/-!
# The ledger identity

Every posting batch balances at the stored scale, and so does the ledger; a journal is in the
ledger exactly when it is posted or reversed, and then its rows record its lines one by one in
one batch. Both halves are read off the invariant `Books`.

A small ledger in use closes the module; later modules run their own calls on it.
-/

namespace DotmacErp

open Calendar Relational Totals

variable {s : Db}

theorem Books.has_rows_iff (h : Books s) {k : UUID} {j : JournalEntry}
    (hj : s.journals.get? k = some j) :
    (∃ row ∈ s.ledger, row.journalEntryId = k) ↔ Booked j.status := by
  have hmem : (∃ row ∈ s.ledger, row.journalEntryId = k) ↔ rowsOfJournal s.ledger k ≠ [] := by
    rw [rowsOfJournal, ne_eq, List.filter_eq_nil_iff]
    simp
  have hfiled := h.filed k j hj
  rw [hmem]
  constructor
  · intro hrows
    by_contra hb
    exact hrows (hfiled.unbooked hb).1
  · intro hb hrows
    obtain ⟨_, _, _, _, _, _, hrecords, _⟩ := hfiled.booked hb
    rw [hrows, List.forall₂_nil_right_iff] at hrecords
    exact hfiled.lines hrecords

theorem Books.booked_of_mem (h : Books s) {row : PostedLedgerLine} (hrow : row ∈ s.ledger) :
    ∃ j, s.journals.get? row.journalEntryId = some j ∧ Booked j.status := by
  obtain ⟨j, hj⟩ := Option.isSome_iff_exists.mp (h.rowJournal row hrow)
  exact ⟨j, hj, (h.has_rows_iff hj).mp ⟨row, hrow, rfl⟩⟩

/-- **The ledger identity.** In every reachable state each batch's stored debits equal its
stored credits, hence so do the ledger's; a journal has rows if and only if it is posted or
reversed, and then they are all in one batch and record its lines one to one, each stored
amount the functional amount rounded half up to six decimals. -/
theorem ledger_identity (h : ledgerSystem.Reachable s) :
    (∀ b, batchDebits s.ledger b = batchCredits s.ledger b) ∧
    (s.ledger.map PostedLedgerLine.debitAmount).sum =
      (s.ledger.map PostedLedgerLine.creditAmount).sum ∧
    (∀ row ∈ s.ledger, ∃ j, s.journals.get? row.journalEntryId = some j) ∧
    ∀ k j, s.journals.get? k = some j →
      ((∃ row ∈ s.ledger, row.journalEntryId = k) ↔
        j.status = .posted ∨ j.status = .reversed) ∧
      (j.status = .posted ∨ j.status = .reversed →
        (∃ b, ∀ row ∈ rowsOfJournal s.ledger k, row.postingBatchId = b) ∧
        (j.lines.map JournalEntryLine.lineId).Nodup ∧
        List.Forall₂ (fun line row => row.journalLineId = line.lineId ∧
            row.accountId = line.accountId ∧ row.dimensions = line.dimensions ∧
            row.debitAmount = Rounding.halfUp 6 line.debitAmountFunctional ∧
            row.creditAmount = Rounding.halfUp 6 line.creditAmountFunctional)
          j.lines (rowsOfJournal s.ledger k)) := by
  have hbooks := books_of_reachable h
  refine ⟨hbooks.balanced, sum_eq_sum_of_total_eq hbooks.balanced, fun row hrow => ?_,
    fun k j hj => ⟨hbooks.has_rows_iff hj, fun hb => ?_⟩⟩
  · obtain ⟨j, hj, _⟩ := hbooks.booked_of_mem hrow
    exact ⟨j, hj⟩
  · have hfiled := hbooks.filed k j hj
    obtain ⟨b, _, _, _, _, _, hrecords, hrows⟩ := hfiled.booked hb
    exact ⟨⟨b, hrows⟩, hfiled.lineKeys, hrecords.imp fun _ _ r =>
      ⟨r.journalLineId, r.accountId, r.dimensions, r.debitAmount, r.creditAmount⟩⟩

/-! ### A ledger in use -/

def january : Date := ⟨2024, 1, 1, by decide⟩

/-- Numbers in creation order, with segregation of duties switched on. -/
def sampleEnv : Env where
  journalNumber _ n := "JE" ++ toString n
  requireSod _ := true

/-- A database with a cash and a revenue account and an open January. -/
def sampleDb : Db where
  accounts := (Table.empty.insert ⟨0, "1000", "Cash", true⟩).insert ⟨0, "4000", "Revenue", true⟩
  fiscalYears := Table.empty.insert
    (PeriodGuardService.onDemandYear 0 january)
  fiscalPeriods := Table.empty.insert (PeriodGuardService.onDemandPeriod 0 0 january)

def sampleInput : JournalInput where
  journalType := .standard
  entryDate := january
  postingDate := january
  description := "Sale"
  lines := [{ accountId := 0, debitAmount := 1 / 3 }, { accountId := 1, creditAmount := 1 / 3 }]
  currencyCode := "NGN"

/-- Create, submit, approve and post a journal, then reverse it. -/
def sampleCalls : List Operation :=
  [.createJournal sampleEnv 0 sampleInput 7, .submitJournal 0 0 7, .approveJournal sampleEnv 0 0 8,
    .postJournal 0 0 8 none false none,
    .createReversal sampleEnv 0 0 january 8 "mistake" true none false none]

/-- The identity on that ledger: four rows, two each way, no journal unaccounted for. -/
theorem ledger_identity_sample :
    (sampleDb.after sampleCalls).ledger.map PostedLedgerLine.debitAmount =
        [333333 / 1000000, 0, 0, 333333 / 1000000] ∧
      ((sampleDb.after sampleCalls).ledger.map PostedLedgerLine.debitAmount).sum =
        ((sampleDb.after sampleCalls).ledger.map PostedLedgerLine.creditAmount).sum ∧
      ∀ row ∈ (sampleDb.after sampleCalls).ledger,
        ∃ j, (sampleDb.after sampleCalls).journals.get? row.journalEntryId = some j :=
  have h := ledger_identity (reachable_after (s := sampleDb) rfl rfl rfl sampleCalls)
  ⟨by decide +kernel, h.2.1, h.2.2.1⟩

end DotmacErp
