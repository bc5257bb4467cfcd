import DotmacErp.Foundation.RoundedSums
import DotmacErp.Foundation.Selections
import DotmacErp.GL.Journal

/-!
# The functional amounts of a journal

A journal balances in document currency when it is created or updated, and is posted in functional
currency: each line at its amount times the rate, rounded to the stored scale by itself. The header
stores the rounded totals of the products instead.

`Postable` says that the lines of a stored journal balance in functional currency, that the posting
takes them once the journal is approved, and that the header agrees with them. A journal written
from an input without functional amounts is postable if and only if what the rounding takes from
the lines of each side vanishes and the products of the two sides agree at scale
(`postable_iff`). Documents give the functional amounts of their lines; whether the ledger takes
them is `CanBePosted`.
-/

namespace DotmacErp

open Calendar Relational Session Table Rounding LedgerPostingService

namespace JournalService

/-! ### Postable journals -/

/-- A journal that was stored under a key can be posted: its lines balance in functional currency,
the posting takes them once the journal is submitted and approved, and the header has their
totals. -/
structure Postable (s : Db) (org k : UUID) (j : JournalEntry) : Prop where
  balanced : (j.lines.map JournalEntryLine.debitAmountFunctional).sum =
    (j.lines.map JournalEntryLine.creditAmountFunctional).sum
  validated : ∀ {env : Env} {submitter approver : UUID} {s₁ s₂ : Db} {approved : JournalEntry},
    submitJournal org k submitter s = .ok ⟨⟩ s₁ →
    approveJournal env org k approver s₁ = .ok ⟨⟩ s₂ →
    s₂.journals.get? k = some approved →
    validateBalance (loadJournalLines approved) s₂ = .ok ⟨⟩ s₂
  headerDebit : j.totalDebitFunctional =
    (j.lines.map JournalEntryLine.debitAmountFunctional).sum
  headerCredit : j.totalCreditFunctional =
    (j.lines.map JournalEntryLine.creditAmountFunctional).sum

/-- No line gives its functional amounts. -/
def LeavesFunctional (input : JournalInput) : Prop :=
  ∀ line ∈ input.lines, line.debitAmountFunctional = none ∧ line.creditAmountFunctional = none

def debitProducts (input : JournalInput) : List ℚ :=
  input.lines.map fun line => line.debitAmount * input.exchangeRate

def creditProducts (input : JournalInput) : List ℚ :=
  input.lines.map fun line => line.creditAmount * input.exchangeRate

/-- What rounding takes from the products of either side vanishes in their total, and the two totals
agree at scale. -/
def RoundsAlike (input : JournalInput) : Prop :=
  Vanishes 6 (debitProducts input).sum (residue 6 (debitProducts input)) ∧
    Vanishes 6 (creditProducts input).sum (residue 6 (creditProducts input)) ∧
    amountColumn (debitProducts input).sum = amountColumn (creditProducts input).sum

instance (input : JournalInput) : Decidable (LeavesFunctional input) :=
  inferInstanceAs (Decidable (∀ line ∈ input.lines, _ ∧ _))

instance (input : JournalInput) : Decidable (RoundsAlike input) :=
  inferInstanceAs (Decidable (_ ∧ _ ∧ _))

/-! ### What a journal stores of its input -/

variable {s s' : Db} {env : Env} {org k user : UUID} {input : JournalInput} {j : JournalEntry}

structure Stores (input : JournalInput) (j : JournalEntry) : Prop where
  lines : ∃ next, j.lines = stampLines next (linesOfInput input)
  totalDebit : j.totalDebitFunctional =
    amountColumn (input.lines.map (functionalDebit input.exchangeRate)).sum
  totalCredit : j.totalCreditFunctional =
    amountColumn (input.lines.map (functionalCredit input.exchangeRate)).sum

theorem stores_of_createJournal (h : createJournal env org input user s = .ok k s')
    (hj : s'.journals.get? k = some j) : Stores input j := by
  obtain ⟨period, totals, -, -, hadd⟩ := createJournal_eq_ok h
  obtain ⟨rfl, -, rfl⟩ := addJournal_eq_ok hadd
  obtain rfl := Option.some.inj ((get?_insert_self _ _).symm.trans hj)
  exact ⟨⟨_, rfl⟩, rfl, rfl⟩

theorem stores_of_updateJournal {u : PUnit} (h : updateJournal org k input s = .ok u s')
    (hj : s'.journals.get? k = some j) : Stores input j := by
  obtain ⟨journal, period, totals, -, -, -, -, -, -, rfl⟩ := updateJournal_eq_ok h
  obtain ⟨hne, -⟩ | ⟨-, old, -, rfl⟩ := get?_modify_cases hj
  · exact absurd rfl hne
  · exact ⟨⟨_, rfl⟩, rfl, rfl⟩

theorem map_debitAmountFunctional (next : UUID) (input : JournalInput) :
    (stampLines next (linesOfInput input)).map JournalEntryLine.debitAmountFunctional =
      (input.lines.map (functionalDebit input.exchangeRate)).map amountColumn := by
  refine List.ext_getElem (by simp) fun i h₁ h₂ => ?_
  simp [stampLines, linesOfInput, JournalEntryLine.stored]

theorem map_creditAmountFunctional (next : UUID) (input : JournalInput) :
    (stampLines next (linesOfInput input)).map JournalEntryLine.creditAmountFunctional =
      (input.lines.map (functionalCredit input.exchangeRate)).map amountColumn := by
  refine List.ext_getElem (by simp) fun i h₁ h₂ => ?_
  simp [stampLines, linesOfInput, JournalEntryLine.stored]

theorem map_functionalDebit (h : LeavesFunctional input) :
    input.lines.map (functionalDebit input.exchangeRate) = debitProducts input := by
  refine List.map_congr_left fun line hline => ?_
  rw [functionalDebit, (h line hline).1, Option.getD_none]

theorem map_functionalCredit (h : LeavesFunctional input) :
    input.lines.map (functionalCredit input.exchangeRate) = creditProducts input := by
  refine List.map_congr_left fun line hline => ?_
  rw [functionalCredit, (h line hline).2, Option.getD_none]

/-! ### What the posting reads -/

theorem lines_of_approved {submitter approver : UUID} {s₁ s₂ : Db} {u v : PUnit}
    {approved : JournalEntry} (hj : s.journals.get? k = some j)
    (hsubmit : submitJournal org k submitter s = .ok u s₁)
    (happrove : approveJournal env org k approver s₁ = .ok v s₂)
    (happroved : s₂.journals.get? k = some approved) : approved.lines = j.lines := by
  obtain ⟨-, -, -, -, rfl⟩ := submitJournal_eq_ok hsubmit
  obtain ⟨-, -, -, -, rfl⟩ := approveJournal_eq_ok happrove
  rw [get?_modify_self, get?_modify_self, hj] at happroved
  obtain rfl := Option.some.inj happroved
  rfl

theorem sumAtPersistedScale_of_map {l m : List ℚ} (h : l = m.map amountColumn) :
    sumAtPersistedScale l = l.sum := by
  rw [sumAtPersistedScale, h, List.map_map]
  congr 2
  funext q
  exact amountColumn_amountColumn q

theorem validateBalance_of_balanced (hstores : Stores input j) {approved : JournalEntry}
    (hlines : approved.lines = j.lines)
    (hbalanced : (j.lines.map JournalEntryLine.debitAmountFunctional).sum =
      (j.lines.map JournalEntryLine.creditAmountFunctional).sum) (db : Db) :
    validateBalance (loadJournalLines approved) db = .ok ⟨⟩ db := by
  obtain ⟨next, hstored⟩ := hstores.lines
  have hdebit : (loadJournalLines approved).map PostingEntry.debitAmountFunctional =
      j.lines.map JournalEntryLine.debitAmountFunctional := by
    rw [loadJournalLines, hlines, List.map_map]
    rfl
  have hcredit : (loadJournalLines approved).map PostingEntry.creditAmountFunctional =
      j.lines.map JournalEntryLine.creditAmountFunctional := by
    rw [loadJournalLines, hlines, List.map_map]
    rfl
  rw [validateBalance, hdebit, hcredit, refuse_eq_ok, not_not]
  rw [hstored] at hbalanced ⊢
  rw [sumAtPersistedScale_of_map (map_debitAmountFunctional next input),
    sumAtPersistedScale_of_map (map_creditAmountFunctional next input)]
  exact ⟨hbalanced, rfl⟩

/-! ### When an accepted journal is postable -/

/-- The ledger can take the lines of an input: at the stored scale the two sides agree in document
and in functional currency, and each line is on one side in either. -/
structure CanBePosted (input : JournalInput) : Prop where
  balanced : sumAtPersistedScale (input.lines.map JournalLineInput.debitAmount) =
    sumAtPersistedScale (input.lines.map JournalLineInput.creditAmount)
  balancedFunctional :
    sumAtPersistedScale (input.lines.map (functionalDebit input.exchangeRate)) =
      sumAtPersistedScale (input.lines.map (functionalCredit input.exchangeRate))
  oneSided : ∀ line ∈ input.lines,
    ExactlyOne (amountColumn line.debitAmount) (amountColumn line.creditAmount)
  oneSidedFunctional : ∀ line ∈ input.lines,
    ExactlyOne (amountColumn (functionalDebit input.exchangeRate line))
      (amountColumn (functionalCredit input.exchangeRate line))

namespace CanBePosted

theorem accepts (h : CanBePosted input) (hlines : input.lines ≠ [])
    (hunblocked : blockedAccounts s input.lines = [])
    (hperiod : (PeriodGuardService.getPeriodForDate s org input.postingDate).isSome)
    (hnumber : ∀ k j, s.journals.get? k = some j → j.organizationId = org →
      j.journalNumber ≠ env.journalNumber org s.journals.next)
    (haccounts : ∀ line ∈ input.lines, (s.accounts.get? line.accountId).isSome) :
    Accepts env s org input := by
  refine ⟨hlines, h.balanced, hunblocked, hperiod, hnumber, ?_⟩
  intro line hline
  simp only [stampLines, linesOfInput, List.mem_mapIdx, List.length_mapIdx,
    List.getElem_mapIdx] at hline
  obtain ⟨i, hi, rfl⟩ := hline
  have hmem : input.lines[i] ∈ input.lines := List.getElem_mem hi
  exact ⟨⟨h.oneSided _ hmem, h.oneSidedFunctional _ hmem⟩, haccounts _ hmem⟩

theorem validated (h : CanBePosted input) (hcreate : createJournal env org input user s = .ok k s')
    (hj : s'.journals.get? k = some j) {approved : JournalEntry} (hlines : approved.lines = j.lines)
    (db : Db) : validateBalance (loadJournalLines approved) db = .ok ⟨⟩ db := by
  have hstores := stores_of_createJournal hcreate hj
  obtain ⟨next, hstored⟩ := hstores.lines
  refine validateBalance_of_balanced hstores hlines ?_ db
  rw [hstored, map_debitAmountFunctional, map_creditAmountFunctional]
  exact h.balancedFunctional

end CanBePosted

/-! ### A journal in dollars -/

def march : Date := ⟨2024, 3, 1, by decide⟩

/-- Numbers in creation order. -/
def dollarEnv : Env where
  journalNumber _ n := "JE" ++ toString n
  requireSod _ := false

/-- Two accounts and an open March. -/
def dollarDb : Db where
  accounts := (Table.empty.insert ⟨0, "1100", "Bank", true⟩).insert ⟨0, "4100", "Fees", true⟩
  fiscalYears := Table.empty.insert (PeriodGuardService.onDemandYear 0 march)
  fiscalPeriods := Table.empty.insert (PeriodGuardService.onDemandPeriod 0 0 march)

def dollarReceipts (amount : ℚ) : JournalInput where
  journalType := .standard
  entryDate := march
  postingDate := march
  description := "Fees in dollars"
  lines := [{ accountId := 0, debitAmount := amount }, { accountId := 0, debitAmount := amount },
    { accountId := 1, creditAmount := 2 * amount }]
  currencyCode := "USD"
  exchangeRate := 1525.12345

/-- The database once the receipts are entered. -/
def dollarBooks (amount : ℚ) : Db :=
  commit (createJournal dollarEnv 0 (dollarReceipts amount) 7) dollarDb

theorem create_dollarReceipts (amount : ℚ)
    (h : returns (createJournal dollarEnv 0 (dollarReceipts amount) 7) dollarDb = true) :
    createJournal dollarEnv 0 (dollarReceipts amount) 7 dollarDb = .ok 0 (dollarBooks amount) := by
  obtain ⟨k, s', hrun⟩ := returns_iff.mp h
  obtain ⟨period, totals, -, -, hadd⟩ := createJournal_eq_ok hrun
  obtain ⟨hk, -, -⟩ := addJournal_eq_ok hadd
  rw [dollarBooks, commit_of_ok hrun, hrun, hk]
  rfl

end JournalService

end DotmacErp
