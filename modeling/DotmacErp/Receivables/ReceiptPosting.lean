import DotmacErp.GL.FunctionalAmounts
import DotmacErp.Receivables.CoverageLimits
import DotmacErp.Receivables.DocumentPosting

/-!
# The journal of a receipt

A receipt is accepted when what is received and what was withheld make up its gross amount, up to a
cent. Its journal debits the bank with the one, the tax that was withheld with the other, and
credits the gross amount; each line in functional currency is its own product with the rate. The
ledger asks that the sides agree exactly, at six decimals and in either currency, and that no line
is empty.

So the ledger takes an accepted receipt if and only if the parts make up the whole exactly, the
rounding of their products vanishes in that of the whole, and neither product rounds to nothing
(`canBePosted_receipt_iff`).
-/

namespace DotmacErp.Receivables

open Calendar Relational Session Rounding JournalService CustomerPaymentService

variable {β : Type} {input : CustomerPaymentInput}

/-! ### The parts of a receipt -/

/-- What a receipt settles: its gross amount, or what is received and withheld if that is not
given. -/
def CustomerPaymentInput.settled (input : CustomerPaymentInput) : ℚ :=
  input.grossAmount.getD (input.amount + input.whtAmount)

def CustomerPaymentInput.withheld (input : CustomerPaymentInput) : ℚ :=
  if input.whtAmount = 0 then input.settled - input.amount else input.whtAmount

theorem amounts_of_resolve {amounts : ReceiptAmounts}
    (h : resolveReceiptAmounts input = .ok amounts) :
    amounts = ⟨input.amount, input.settled, input.withheld⟩ ∧ 0 ≤ input.amount ∧
      0 ≤ input.withheld := by
  obtain ⟨hnet, hgross⟩ := resolveReceiptAmounts_eq_ok h
  simp only [resolveReceiptAmounts] at h
  split at h
  · exact absurd h (by simp)
  rename_i hnonneg
  have hwht : 0 ≤ input.whtAmount := not_lt.mp (not_or.mp hnonneg).2
  have hamounts : amounts = ⟨input.amount, input.settled, input.withheld⟩ := by
    rw [CustomerPaymentInput.withheld, CustomerPaymentInput.settled]
    split at h
    next hnone =>
      obtain rfl := Except.ok.inj h
      rw [hnone, Option.getD_none]
      split_ifs with hzero
      · rw [hzero, add_zero, sub_self]
      · rfl
    next gross hsome =>
      rw [hsome, Option.getD_some]
      split at h
      · exact absurd h (by simp)
      split at h
      next hderived =>
        obtain rfl := Except.ok.inj h
        rw [if_pos hderived.1]
      next hgiven =>
        split at h
        · exact absurd h (by simp)
        obtain rfl := Except.ok.inj h
        split_ifs with hzero
        · have hsame : gross = input.amount := by
            by_contra hne
            exact hgiven ⟨hzero, hne⟩
          rw [hzero, hsame, sub_self]
        · rfl
  subst hamounts
  refine ⟨rfl, hnet, ?_⟩
  rw [CustomerPaymentInput.withheld]
  split_ifs
  · exact sub_nonneg.mpr hgross
  · exact hwht

def CustomerPaymentInput.storedRate (input : CustomerPaymentInput) : ℚ :=
  if rateColumn (receiptRate input) = 0 then 1 else rateColumn (receiptRate input)

/-- Two parts at a rate go into the ledger with the whole they are of: they make it up, what the
rounding of their products takes vanishes in that of the whole, and no product of a part that has a
line rounds to nothing. -/
structure FitTogether (net withheld whole rate : ℚ) : Prop where
  whole_eq : net + withheld = whole
  vanishes : Vanishes 6 (whole * rate) (residue 6 [net * rate, withheld * rate])
  net_pos : whole = 0 ∨ 1 / (2 * 10 ^ 6) ≤ net * rate
  withheld_pos : withheld = 0 ∨ 1 / (2 * 10 ^ 6) ≤ withheld * rate

/-- The amounts of the receipt, converted each on its own, add up. -/
def CustomerPaymentInput.FitsLedger (input : CustomerPaymentInput) : Prop :=
  FitTogether (amountColumn input.amount) (amountColumn input.withheld)
    (amountColumn input.settled) input.storedRate

theorem fitTogether_zero (rate : ℚ) : FitTogether 0 0 0 rate := by
  refine ⟨add_zero 0, Or.inl ?_, Or.inl rfl, Or.inl rfl⟩
  simp [residue]

instance (net withheld whole rate : ℚ) : Decidable (FitTogether net withheld whole rate) :=
  decidable_of_iff (net + withheld = whole ∧
      Vanishes 6 (whole * rate) (residue 6 [net * rate, withheld * rate]) ∧
      (whole = 0 ∨ 1 / (2 * 10 ^ 6) ≤ net * rate) ∧
      (withheld = 0 ∨ 1 / (2 * 10 ^ 6) ≤ withheld * rate))
    ⟨fun ⟨h₁, h₂, h₃, h₄⟩ => ⟨h₁, h₂, h₃, h₄⟩,
      fun h => ⟨h.whole_eq, h.vanishes, h.net_pos, h.withheld_pos⟩⟩

instance (input : CustomerPaymentInput) : Decidable input.FitsLedger :=
  inferInstanceAs (Decidable (FitTogether _ _ _ _))

/-! ### The lines of the journal -/

section Lines

variable {payment : CustomerPayment} {customer : Customer} {bankGlAccountId : UUID}
  {whtAccountId : Option UUID} {postingDate : Date}

/-- The amounts of a payment are at scale, and what was withheld has a line if it is more than
nothing. -/
structure IsPrepared (payment : CustomerPayment) (whtAccountId : Option UUID) : Prop where
  amount_atScale : AtScale 6 payment.amount
  wht_atScale : AtScale 6 payment.whtAmount
  gross_atScale : AtScale 6 payment.gross
  wht_eq_zero : whtAccountId = none → payment.whtAmount = 0
  wht_pos : ∀ accountId, whtAccountId = some accountId → 0 < payment.whtAmount

theorem sumAtPersistedScale_paymentJournal (side : JournalLineInput → ℚ) :
    sumAtPersistedScale ((paymentJournal payment customer bankGlAccountId whtAccountId
        postingDate).lines.map side) =
      amountColumn (side (debitLine bankGlAccountId payment.amount payment.rate
        ("AR Payment: " ++ payment.reference.getD "None"))) +
      (whtAccountId.toList.map fun accountId =>
        amountColumn (side (debitLine accountId payment.whtAmount payment.rate
          ("WHT deducted by " ++ customer.legalName ++ " (Cert: " ++
            payment.whtCertificateNumber.getD "N/A" ++ ")")))).sum +
      amountColumn (side (creditLine customer.arControlAccountId payment.gross payment.rate
        ("Payment from " ++ customer.legalName))) := by
  rw [sumAtPersistedScale, paymentJournal]
  simp only [List.map_cons, List.map_append, List.map_map, List.map_nil, List.sum_cons,
    List.sum_append, List.sum_nil, add_zero, List.cons_append, add_assoc, Function.comp_def]

theorem debits_paymentJournal (h : IsPrepared payment whtAccountId) :
    sumAtPersistedScale ((paymentJournal payment customer bankGlAccountId whtAccountId
        postingDate).lines.map (functionalDebit payment.rate)) =
      ([payment.amount * payment.rate, payment.whtAmount * payment.rate].map (halfUp 6)).sum := by
  have hzero : amountColumn 0 = 0 := halfUp_zero 6
  rw [sumAtPersistedScale_paymentJournal]
  simp only [functionalDebit, debitLine, creditLine, Option.getD_some, hzero, add_zero,
    List.map_cons, List.map_nil, List.sum_cons, List.sum_nil]
  cases haccount : whtAccountId with
  | none => simp [h.wht_eq_zero haccount, amountColumn]
  | some accountId => simp [amountColumn]

theorem documentDebits_paymentJournal (h : IsPrepared payment whtAccountId) :
    sumAtPersistedScale ((paymentJournal payment customer bankGlAccountId whtAccountId
        postingDate).lines.map JournalLineInput.debitAmount) =
      payment.amount + payment.whtAmount := by
  have hzero : amountColumn 0 = 0 := halfUp_zero 6
  have hnet : amountColumn payment.amount = payment.amount := halfUp_of_atScale h.amount_atScale
  have hwht : amountColumn payment.whtAmount = payment.whtAmount := halfUp_of_atScale h.wht_atScale
  rw [sumAtPersistedScale_paymentJournal]
  simp only [debitLine, creditLine, hzero, add_zero, hnet, hwht]
  cases haccount : whtAccountId with
  | none => simp [h.wht_eq_zero haccount]
  | some accountId => simp

theorem credits_paymentJournal :
    sumAtPersistedScale ((paymentJournal payment customer bankGlAccountId whtAccountId
        postingDate).lines.map JournalLineInput.creditAmount) = amountColumn payment.gross ∧
    sumAtPersistedScale ((paymentJournal payment customer bankGlAccountId whtAccountId
        postingDate).lines.map (functionalCredit payment.rate)) =
      amountColumn (payment.gross * payment.rate) := by
  have hzero : amountColumn 0 = 0 := halfUp_zero 6
  constructor
  · rw [sumAtPersistedScale_paymentJournal]
    simp only [debitLine, creditLine, hzero, zero_add]
    cases whtAccountId <;> simp
  · rw [sumAtPersistedScale_paymentJournal]
    simp only [functionalCredit, debitLine, creditLine, Option.getD_some, hzero, zero_add]
    cases whtAccountId <;> simp

theorem amountColumn_pos_iff {q : ℚ} : 0 < amountColumn q ↔ 1 / (2 * 10 ^ 6) ≤ q := by
  have hle := halfUp_le_iff (n := 6) (q := q) (atScale_zero 6) le_rfl
  rw [zero_add] at hle
  have hnot := not_congr hle
  rwa [not_le, not_lt] at hnot

theorem exactlyOne_debit_iff {q : ℚ} : ExactlyOne q 0 ↔ 0 < q := by
  rw [ExactlyOne]
  constructor
  · rintro (⟨hpos, -⟩ | ⟨-, habsurd⟩)
    · exact hpos
    · exact absurd habsurd (lt_irrefl 0)
  · exact fun hpos => Or.inl ⟨hpos, rfl⟩

theorem exactlyOne_credit_iff {q : ℚ} : ExactlyOne 0 q ↔ 0 < q :=
  ⟨fun h => exactlyOne_debit_iff.mp h.swap, fun h => (exactlyOne_debit_iff.mpr h).swap⟩

/-- What holds of every line of the journal holds of the bank's, of what was withheld and of the
control account's. -/
theorem forall_paymentJournal_iff {P : JournalLineInput → Prop} :
    (∀ line ∈ (paymentJournal payment customer bankGlAccountId whtAccountId postingDate).lines,
      P line) ↔
      P (debitLine bankGlAccountId payment.amount payment.rate
        ("AR Payment: " ++ payment.reference.getD "None")) ∧
      (∀ accountId, whtAccountId = some accountId →
        P (debitLine accountId payment.whtAmount payment.rate
          ("WHT deducted by " ++ customer.legalName ++ " (Cert: " ++
            payment.whtCertificateNumber.getD "N/A" ++ ")"))) ∧
      P (creditLine customer.arControlAccountId payment.gross payment.rate
        ("Payment from " ++ customer.legalName)) := by
  rw [paymentJournal]
  cases whtAccountId with
  | none => simp
  | some accountId => simp

/-- The products of the parts are rounded to the product of the whole if and only if what the
rounding takes vanishes in it. -/
theorem sum_products_eq_iff {net withheld whole rate : ℚ} (h : net + withheld = whole) :
    ([net * rate, withheld * rate].map (halfUp 6)).sum = amountColumn (whole * rate) ↔
      Vanishes 6 (whole * rate) (residue 6 [net * rate, withheld * rate]) := by
  have hsum : [net * rate, withheld * rate].sum = whole * rate := by
    rw [List.sum_cons, List.sum_cons, List.sum_nil, add_zero, ← add_mul, h]
  have hround := halfUp_sum_eq_iff 6 [net * rate, withheld * rate]
  rw [hsum] at hround
  rw [← hround, amountColumn, eq_comm]

/-- **The ledger takes the journal of a payment** if and only if its parts fit together. -/
theorem canBePosted_paymentJournal_iff (h : IsPrepared payment whtAccountId)
    (hgross : payment.gross ≠ 0) (hwht : 0 ≤ payment.whtAmount) (hamount : 0 ≤ payment.amount) :
    CanBePosted (paymentJournal payment customer bankGlAccountId whtAccountId postingDate) ↔
      FitTogether payment.amount payment.whtAmount payment.gross payment.rate := by
  have hzero : amountColumn 0 = 0 := halfUp_zero 6
  have hfixed : ∀ {q : ℚ}, AtScale 6 q → amountColumn q = q := halfUp_of_atScale
  have hdocument : sumAtPersistedScale ((paymentJournal payment customer bankGlAccountId
        whtAccountId postingDate).lines.map JournalLineInput.debitAmount) =
      sumAtPersistedScale ((paymentJournal payment customer bankGlAccountId whtAccountId
        postingDate).lines.map JournalLineInput.creditAmount) ↔
      payment.amount + payment.whtAmount = payment.gross := by
    rw [documentDebits_paymentJournal h, credits_paymentJournal.1, hfixed h.gross_atScale]
  have hfunctional (hwhole : payment.amount + payment.whtAmount = payment.gross) :
      sumAtPersistedScale ((paymentJournal payment customer bankGlAccountId whtAccountId
        postingDate).lines.map (functionalDebit payment.rate)) =
      sumAtPersistedScale ((paymentJournal payment customer bankGlAccountId whtAccountId
        postingDate).lines.map (functionalCredit payment.rate)) ↔
      Vanishes 6 (payment.gross * payment.rate)
        (residue 6 [payment.amount * payment.rate, payment.whtAmount * payment.rate]) := by
    rw [debits_paymentJournal h, credits_paymentJournal.2, sum_products_eq_iff hwhole]
  constructor
  · intro hposted
    have hwhole := hdocument.mp hposted.balanced
    obtain ⟨hbank, htax, -⟩ := forall_paymentJournal_iff.mp hposted.oneSidedFunctional
    simp only [functionalDebit, functionalCredit, debitLine, Option.getD_some, hzero,
      exactlyOne_debit_iff, amountColumn_pos_iff] at hbank htax
    refine ⟨hwhole, (hfunctional hwhole).mp hposted.balancedFunctional, Or.inr hbank, ?_⟩
    cases haccount : whtAccountId with
    | none => exact Or.inl (h.wht_eq_zero haccount)
    | some accountId => exact Or.inr (htax accountId haccount)
  · intro hfit
    have hnet : 1 / (2 * 10 ^ 6) ≤ payment.amount * payment.rate :=
      hfit.net_pos.resolve_left hgross
    have hbalanced := (hfunctional hfit.whole_eq).mpr hfit.vanishes
    -- a product that is rounded to more than nothing is of an amount and a rate above zero
    have hpos : 0 < payment.amount * payment.rate := lt_of_lt_of_le (by norm_num) hnet
    have hamount_pos : 0 < payment.amount := by
      refine lt_of_le_of_ne hamount fun hnothing => ?_
      rw [← hnothing, zero_mul] at hpos
      exact lt_irrefl 0 hpos
    have hrate_pos : 0 < payment.rate := (pos_iff_pos_of_mul_pos hpos).mp hamount_pos
    have hgross_pos : 0 < payment.gross := by
      rw [← hfit.whole_eq]
      exact add_pos_of_pos_of_nonneg hamount_pos hwht
    have hgross_product : 1 / (2 * 10 ^ 6) ≤ payment.gross * payment.rate := by
      rw [← hfit.whole_eq, add_mul]
      exact le_add_of_le_of_nonneg hnet (mul_nonneg hwht hrate_pos.le)
    refine ⟨hdocument.mpr hfit.whole_eq, hbalanced, ?_, ?_⟩
    · refine forall_paymentJournal_iff.mpr ⟨?_, fun accountId haccount => ?_, ?_⟩
      · simpa only [debitLine, hzero, exactlyOne_debit_iff, hfixed h.amount_atScale]
          using hamount_pos
      · simpa only [debitLine, hzero, exactlyOne_debit_iff, hfixed h.wht_atScale]
          using h.wht_pos accountId haccount
      · simpa only [creditLine, hzero, exactlyOne_credit_iff, hfixed h.gross_atScale]
          using hgross_pos
    · refine forall_paymentJournal_iff.mpr ⟨?_, fun accountId haccount => ?_, ?_⟩
      · simpa only [functionalDebit, functionalCredit, debitLine, Option.getD_some, hzero,
          exactlyOne_debit_iff, amountColumn_pos_iff] using hnet
      · have hproduct : 1 / (2 * 10 ^ 6) ≤ payment.whtAmount * payment.rate :=
          hfit.withheld_pos.resolve_left (h.wht_pos accountId haccount).ne'
        simpa only [functionalDebit, functionalCredit, debitLine, Option.getD_some, hzero,
          exactlyOne_debit_iff, amountColumn_pos_iff] using hproduct
      · simpa only [functionalDebit, functionalCredit, creditLine, Option.getD_some, hzero,
          exactlyOne_credit_iff, amountColumn_pos_iff] using hgross_product

end Lines

/-! ### When a receipt is posted -/

/-- What comes of a document can go into the ledger: there is nothing to post, or a journal the
ledger takes. -/
def Preparation.Posts : Preparation → Prop
  | .journal input => CanBePosted input
  | .nothing _ => True
  | .refused _ | .raised _ => False

section Receipt

variable {s s' t : ReceivablesStore Db} {org paymentId bankGlAccountId : UUID}
  {paymentNumber : String} {payment : CustomerPayment} {customer : Customer}
  {whtAccountId : Option UUID} {postingDate : Date}

theorem isPrepared_of_resolve (h : resolveWhtAccount t org payment = .ok whtAccountId)
    (hamount : AtScale 6 payment.amount) (hwht : AtScale 6 payment.whtAmount)
    (hgross : AtScale 6 payment.gross) (hnonneg : 0 ≤ payment.whtAmount) :
    IsPrepared payment whtAccountId := by
  refine ⟨hamount, hwht, hgross, ?_, ?_⟩
  · intro hnone
    rw [resolveWhtAccount] at h
    split at h
    · exact le_antisymm ‹_› hnonneg
    · split at h
      · split at h
        · exact absurd h (by simp)
        · exact absurd ((Except.ok.inj h).trans hnone) (by simp)
      · exact absurd h (by simp)
  · intro accountId hsome
    rw [resolveWhtAccount] at h
    split at h
    · exact absurd ((Except.ok.inj h).trans hsome) (by simp)
    · exact not_le.mp ‹_›

theorem preparePayment_eq {bankAccountId : UUID} (hstatus : payment.status = .approved)
    (hmatch : |payment.amount + payment.whtAmount - payment.gross| ≤ 1 / 100)
    (hgross : payment.gross ≠ 0) (hcustomer : t.customers.get? payment.customerId = some customer)
    (hbank : payment.bankAccountId = some bankAccountId)
    (haccount : resolveBankGlAccountId t.ledger org bankAccountId =
      some bankGlAccountId) (hwht : resolveWhtAccount t org payment = .ok whtAccountId) :
    preparePayment t org postingDate payment =
      .journal (paymentJournal payment customer bankGlAccountId whtAccountId postingDate) := by
  have hpostable : ¬ payment.status ∉ [PaymentStatus.approved, PaymentStatus.cleared] := by
    simp [hstatus]
  rw [preparePayment, if_neg hpostable, if_neg (not_lt.mpr hmatch), if_neg hgross, hcustomer, hbank]
  simp only [haccount, hwht]

theorem preparePayment_of_gross_zero (hstatus : payment.status = .approved)
    (hgross : payment.gross = 0) (hparts : payment.amount + payment.whtAmount = 0) :
    preparePayment t org postingDate payment =
      .nothing "Zero amount payment — no GL posting needed" := by
  have hpostable : ¬ payment.status ∉ [PaymentStatus.approved, PaymentStatus.cleared] := by
    simp [hstatus]
  rw [preparePayment, if_neg hpostable, hgross, hparts, sub_zero, abs_zero,
    if_neg (by norm_num), if_pos rfl]

end Receipt

/-! ### A receipt in dollars -/

def payingCustomer : Customer := ⟨0, "Customer", true, 2, none⟩

/-- A customer, a withholding code and their accounts, in an open March. -/
def receiptStore : ReceivablesStore Db where
  customers := Table.empty.insert payingCustomer
  taxCodes := Table.empty.insert ⟨0, .withholding, some 3⟩
  invoices := Table.empty
  payments := Table.empty
  allocations := []
  ledger := { dollarDb with
    accounts := (dollarDb.accounts.insert ⟨0, "1200", "Receivables", true⟩).insert
      ⟨0, "1300", "Tax withheld", true⟩ }

def taxedReceipt (whtAmount rate : ℚ) : CustomerPaymentInput where
  customerId := 0
  paymentDate := march
  currencyCode := "USD"
  amount := 95
  bankAccountId := some 0
  exchangeRate := some rate
  grossAmount := some 100
  whtCodeId := some 0
  whtAmount := whtAmount

def receiptBooks (input : CustomerPaymentInput) : ReceivablesStore Db :=
  commit (createPayment 0 "R1" input) receiptStore

theorem create_receipt (input : CustomerPaymentInput)
    (h : returns (createPayment 0 "R1" input) receiptStore = true) :
    createPayment 0 "R1" input receiptStore = .ok 0 (receiptBooks input) := by
  obtain ⟨k, s', hrun⟩ := returns_iff.mp h
  obtain ⟨-, -, -, -, hk, -⟩ := createPayment_eq_ok hrun
  rw [receiptBooks, commit_of_ok hrun, hrun, hk]
  rfl

def receiptRow (input : CustomerPaymentInput) : CustomerPayment :=
  newPayment 0 "R1" input ⟨input.amount, input.settled, input.withheld⟩ (some 0)

theorem receipt_configured (whtAmount rate : ℚ) :
    receiptStore.customers.get? (receiptRow (taxedReceipt whtAmount rate)).customerId =
      some payingCustomer ∧ (receiptRow (taxedReceipt whtAmount rate)).bankAccountId.bind
      (resolveBankGlAccountId receiptStore.ledger 0) = some 0 := by
  constructor <;> rfl

end DotmacErp.Receivables
