import DotmacErp.Foundation.Related
import DotmacErp.Foundation.RoundedSums
import DotmacErp.GL.Models
import Mathlib.Data.List.Sort
import Mathlib.Data.Prod.Lex
import Mathlib.Data.String.Basic

/-!
# The taxes of a line

`TaxCalculationService`: the taxes of an invoice line are those of its tax codes that are effective
on the day. Codes that are included in the price are extracted from the line amount one after the
other, which leaves the net amount; the others are added on top, a compound one on the net amount
with all taxes before it. A code is a rate, or a fixed amount.

Whatever the codes, what is extracted and what is left make up the line amount, and every tax is
its recoverable and its other part (`calculateLineTaxes_eq_ok`). The order in which the codes are
given does not matter, as they are sorted by what is unique to them (`calculateLineTaxes_perm`).
The gross amount is the net amount with all taxes as long as the codes are not mixed; if they are,
the taxes that were extracted are missing from it (`mixed_codes`), and `lineTotals_iff` says exactly
when that is nothing.
-/

namespace DotmacErp.TaxCalculation

open Calendar Related Relational Rounding

/-- `TaxCode`, with what the calculation reads. The code is unique in an organization. -/
structure TaxCode where
  organizationId : UUID
  taxCode : String
  taxName : String
  taxRate : ℚ
  effectiveFrom : Date
  effectiveTo : Option Date := none
  isCompound : Bool := false
  isInclusive : Bool := false
  isFixedAmount : Bool := false
  isRecoverable : Bool := true
  recoveryRate : ℚ := 1
  isActive : Bool := true
  deriving DecidableEq

/-- The tax codes that are stored, with the constraint `uq_tax_code`. -/
structure TaxCodeBook where
  codes : Table TaxCode
  unique : ∀ k k' code code', codes.get? k = some code → codes.get? k' = some code' →
    code.organizationId = code'.organizationId → code.taxCode = code'.taxCode → k = k'

/-- What the service raises. -/
inductive TaxError where
  | http (statusCode : ℕ) (detail : String)
  | arithmetic
  deriving DecidableEq

structure LineTaxResult where
  taxCodeId : UUID
  taxCode : String
  taxName : String
  baseAmount : ℚ
  taxRate : ℚ
  taxAmount : ℚ
  isInclusive : Bool
  isRecoverable : Bool
  recoverableAmount : ℚ
  nonRecoverableAmount : ℚ
  sequence : ℕ

structure LineCalculationResult where
  netAmount : ℚ
  taxes : List LineTaxResult
  totalTax : ℚ
  grossAmount : ℚ

/-- `InvoiceLineTaxInput`, without the key of the line. -/
structure InvoiceLineTaxInput where
  lineAmount : ℚ
  taxCodeIds : List UUID

structure InvoiceTaxResult where
  lines : List LineCalculationResult
  totalTax : ℚ
  totalNet : ℚ
  totalGross : ℚ

/-! ### One code -/

def getEffectiveTaxCode (book : TaxCodeBook) (org taxCodeId : UUID)
    (transactionDate : Date) : Except TaxError (Stored TaxCode) :=
  match (book.codes.get? taxCodeId).filter (·.organizationId = org) with
  | none => .error (.http 404 ("Tax code " ++ taxCodeId.str ++ " not found"))
  | some code =>
    if !code.isActive then
      .error (.http 400 ("Tax code '" ++ code.taxCode ++ "' is not active"))
    else if transactionDate < code.effectiveFrom then
      .error (.http 400 ("Tax code '" ++ code.taxCode ++ "' is not yet effective on " ++
        transactionDate.iso))
    else
      match code.effectiveTo with
      | some effectiveTo =>
        if transactionDate > effectiveTo then
          .error (.http 400 ("Tax code '" ++ code.taxCode ++ "' has expired as of " ++
            effectiveTo.iso))
        else .ok ⟨taxCodeId, code⟩
      | none => .ok ⟨taxCodeId, code⟩

/-- `calculate_single_tax`: what is left of the amount, and the tax. -/
def calculateSingleTax (baseAmount : ℚ) (code : TaxCode) : Except TaxError (ℚ × ℚ) :=
  if code.isFixedAmount then
    if code.isInclusive then
      let taxAmount := halfUp 2 (min code.taxRate baseAmount)
      .ok (baseAmount - taxAmount, taxAmount)
    else .ok (baseAmount, halfUp 2 code.taxRate)
  else if code.isInclusive then
    let divisor := 1 + code.taxRate
    if divisor = 0 then .error .arithmetic
    else
      let taxAmount := halfUp 2 (baseAmount * code.taxRate / divisor)
      .ok (baseAmount - taxAmount, taxAmount)
  else .ok (baseAmount, halfUp 2 (baseAmount * code.taxRate))

def taxResult (code : Stored TaxCode) (baseAmount taxAmount : ℚ) (sequence : ℕ) :
    LineTaxResult :=
  let recoverable :=
    if code.row.isRecoverable then halfUp 2 (taxAmount * code.row.recoveryRate) else 0
  { taxCodeId := code.id
    taxCode := code.row.taxCode
    taxName := code.row.taxName
    baseAmount
    taxRate := code.row.taxRate
    taxAmount
    isInclusive := code.row.isInclusive
    isRecoverable := code.row.isRecoverable
    recoverableAmount := recoverable
    nonRecoverableAmount := taxAmount - recoverable
    sequence }

/-! ### A line -/

def effectiveTaxCodes (book : TaxCodeBook) (org : UUID) (transactionDate : Date) :
    List UUID → Except TaxError (List (Stored TaxCode))
  | [] => .ok []
  | taxCodeId :: taxCodeIds => do
    let code ← getEffectiveTaxCode book org taxCodeId transactionDate
    let codes ← effectiveTaxCodes book org transactionDate taxCodeIds
    pure (code :: codes)

/-- The order of the codes: those that are not compound first, then by their text. -/
def sortCodes (codes : List (Stored TaxCode)) : List (Stored TaxCode) :=
  codes.insertionSort fun a b =>
    toLex (a.row.isCompound, a.row.taxCode) ≤ toLex (b.row.isCompound, b.row.taxCode)

def extractTaxes : ℚ → ℕ → List (Stored TaxCode) → Except TaxError (List LineTaxResult × ℚ)
  | runningBase, _, [] => .ok ([], runningBase)
  | runningBase, sequence, code :: codes => do
    let (netBase, taxAmount) ← calculateSingleTax runningBase code.row
    let (taxes, netAmount) ← extractTaxes netBase (sequence + 1) codes
    pure (taxResult code runningBase taxAmount sequence :: taxes, netAmount)

def addTaxes (netAmount : ℚ) :
    List LineTaxResult → List (Stored TaxCode) → Except TaxError (List LineTaxResult)
  | taxes, [] => .ok taxes
  | taxes, code :: codes => do
    let baseForCalc :=
      if code.row.isCompound then netAmount + (taxes.map LineTaxResult.taxAmount).sum
      else netAmount
    let (_, taxAmount) ← calculateSingleTax baseForCalc code.row
    addTaxes netAmount (taxes ++ [taxResult code baseForCalc taxAmount (taxes.length + 1)]) codes

def lineResult (lineAmount netAmount : ℚ) (taxes : List LineTaxResult) (onlyInclusive : Bool) :
    LineCalculationResult where
  netAmount := netAmount
  taxes := taxes
  totalTax := (taxes.map LineTaxResult.taxAmount).sum
  grossAmount :=
    if onlyInclusive then lineAmount
    else netAmount + ((taxes.filter fun tax => !tax.isInclusive).map LineTaxResult.taxAmount).sum

def calculateLineTaxes (book : TaxCodeBook) (org : UUID) (lineAmount : ℚ)
    (taxCodeIds : List UUID) (transactionDate : Date) : Except TaxError LineCalculationResult :=
  if taxCodeIds.isEmpty then .ok ⟨lineAmount, [], 0, lineAmount⟩
  else do
    let taxCodes ← effectiveTaxCodes book org transactionDate taxCodeIds
    let inclusiveTaxes := (sortCodes taxCodes).filter (·.row.isInclusive)
    let exclusiveTaxes := (sortCodes taxCodes).filter (!·.row.isInclusive)
    let (extracted, netAmount) ← extractTaxes lineAmount 1 inclusiveTaxes
    let taxes ← addTaxes netAmount extracted exclusiveTaxes
    pure (lineResult lineAmount netAmount taxes
      (!inclusiveTaxes.isEmpty && exclusiveTaxes.isEmpty))

def calculateLines (book : TaxCodeBook) (org : UUID) (transactionDate : Date) :
    List InvoiceLineTaxInput → Except TaxError (List LineCalculationResult)
  | [] => .ok []
  | line :: lines => do
    let result ← calculateLineTaxes book org line.lineAmount line.taxCodeIds
      transactionDate
    let results ← calculateLines book org transactionDate lines
    pure (result :: results)

def calculateInvoiceTaxes (book : TaxCodeBook) (org : UUID)
    (lines : List InvoiceLineTaxInput) (transactionDate : Date) :
    Except TaxError InvoiceTaxResult := do
  let results ← calculateLines book org transactionDate lines
  pure (results.foldl (fun invoice result =>
    { lines := invoice.lines ++ [result]
      totalTax := invoice.totalTax + result.totalTax
      totalNet := invoice.totalNet + result.netAmount
      totalGross := invoice.totalGross + result.grossAmount }) ⟨[], 0, 0, 0⟩)

/-! ### What the codes take -/

def TaxCode.share (code : TaxCode) (amount : ℚ) : ℚ :=
  if code.isFixedAmount then
    if code.isInclusive then min code.taxRate amount else code.taxRate
  else if code.isInclusive then amount * code.taxRate / (1 + code.taxRate)
  else amount * code.taxRate

/-- A rate by which nothing can be extracted from a price. -/
def TaxCode.Undivided (code : TaxCode) : Prop :=
  code.isInclusive ∧ ¬ code.isFixedAmount ∧ 1 + code.taxRate = 0

instance (code : TaxCode) : Decidable code.Undivided :=
  inferInstanceAs (Decidable (_ ∧ ¬ _ ∧ _))

def leftOf : ℚ → List TaxCode → ℚ
  | amount, [] => amount
  | amount, code :: codes => leftOf (amount - halfUp 2 (code.share amount)) codes

/-- The shares of the codes, each in what those before it leave, in cents. -/
def sharesInTurn : ℚ → List TaxCode → List ℚ
  | _, [] => []
  | amount, code :: codes =>
    halfUp 2 (code.share amount) :: sharesInTurn (amount - halfUp 2 (code.share amount)) codes

theorem leftOf_add_sum (amount : ℚ) (codes : List TaxCode) :
    leftOf amount codes + (sharesInTurn amount codes).sum = amount := by
  induction codes generalizing amount with
  | nil => exact add_zero amount
  | cons code codes ih =>
    rw [leftOf, sharesInTurn, List.sum_cons, add_left_comm, ih]
    exact add_sub_cancel _ _

theorem calculateSingleTax_eq {code : TaxCode} (h : ¬ code.Undivided) (amount : ℚ) :
    calculateSingleTax amount code =
      .ok (if code.isInclusive then amount - halfUp 2 (code.share amount) else amount,
        halfUp 2 (code.share amount)) := by
  have hdivisor : code.isInclusive → ¬ code.isFixedAmount → 1 + code.taxRate ≠ 0 :=
    fun hinclusive hfixed hzero => h ⟨hinclusive, hfixed, hzero⟩
  simp only [calculateSingleTax, TaxCode.share]
  split_ifs with hfixed hinclusive hinclusive hzero
  · rfl
  · rfl
  · exact absurd hzero (hdivisor hinclusive hfixed)
  · rfl
  · rfl

theorem calculateSingleTax_of_undivided {code : TaxCode} (h : code.Undivided) (amount : ℚ) :
    calculateSingleTax amount code = .error .arithmetic := by
  obtain ⟨hinclusive, hfixed, hzero⟩ := h
  rw [calculateSingleTax, if_neg hfixed, if_pos hinclusive]
  exact if_pos hzero

theorem TaxCode.share_between {code : TaxCode} (hinclusive : code.isInclusive)
    (hrate : 0 ≤ code.taxRate) (amount : ℚ) :
    (0 ≤ amount → 0 ≤ code.share amount ∧ code.share amount ≤ amount) ∧
      (amount ≤ 0 → amount ≤ code.share amount ∧ code.share amount ≤ 0) := by
  have hpos : 0 < 1 + code.taxRate := by linarith
  rw [TaxCode.share, if_pos hinclusive, if_pos hinclusive]
  split_ifs with hfixed
  · constructor
    · intro hamount
      exact ⟨le_min hrate hamount, min_le_right _ _⟩
    · intro hamount
      rw [min_eq_right (hamount.trans hrate)]
      exact ⟨le_rfl, hamount⟩
  · constructor
    · intro hamount
      refine ⟨div_nonneg (mul_nonneg hamount hrate) hpos.le, ?_⟩
      rw [div_le_iff₀ hpos]
      linarith
    · intro hamount
      refine ⟨?_, div_nonpos_of_nonpos_of_nonneg (mul_nonpos_of_nonpos_of_nonneg hamount hrate)
        hpos.le⟩
      rw [le_div_iff₀ hpos]
      linarith

/-- Codes that are included and have no negative rate take from a price in cents, and never more
than there is. -/
theorem leftOf_between {codes : List TaxCode} (hinclusive : ∀ code ∈ codes, code.isInclusive)
    (hrates : ∀ code ∈ codes, 0 ≤ code.taxRate) {amount : ℚ} (hscale : AtScale 2 amount) :
    (0 ≤ amount → 0 ≤ leftOf amount codes ∧ leftOf amount codes ≤ amount) ∧
      (amount ≤ 0 → amount ≤ leftOf amount codes ∧ leftOf amount codes ≤ 0) := by
  induction codes generalizing amount with
  | nil => exact ⟨fun h => ⟨h, le_rfl⟩, fun h => ⟨le_rfl, h⟩⟩
  | cons code codes ih =>
    rw [List.forall_mem_cons] at hinclusive hrates
    obtain ⟨hpositive, hnegative⟩ := code.share_between hinclusive.1 hrates.1 amount
    obtain ⟨ihpositive, ihnegative⟩ := ih hinclusive.2 hrates.2
      (hscale.sub (atScale_halfUp 2 (code.share amount)))
    constructor
    · intro hamount
      obtain ⟨hlow, hhigh⟩ := hpositive hamount
      have htake : halfUp 2 (code.share amount) ≤ amount := by
        have hmono := halfUp_mono (n := 2) hhigh
        rwa [halfUp_of_atScale hscale] at hmono
      have hleft := ihpositive (sub_nonneg.mpr htake)
      exact ⟨hleft.1, hleft.2.trans (sub_le_self _ (halfUp_nonneg hlow))⟩
    · intro hamount
      obtain ⟨hlow, hhigh⟩ := hnegative hamount
      have htake : amount ≤ halfUp 2 (code.share amount) := by
        have hmono := halfUp_mono (n := 2) hlow
        rwa [halfUp_of_atScale hscale] at hmono
      have hnonpos : halfUp 2 (code.share amount) ≤ 0 := by
        have hmono := halfUp_mono (n := 2) hhigh
        rwa [halfUp_zero] at hmono
      have hleft := ihnegative (sub_nonpos.mpr htake)
      exact ⟨(le_sub_self_iff _).mpr hnonpos |>.trans hleft.1, hleft.2⟩

/-- **Nothing is extracted** from a price in cents by codes with no negative rate if and only if
the share of each in the price is less than half a cent. -/
theorem leftOf_eq_iff {codes : List TaxCode} (hinclusive : ∀ code ∈ codes, code.isInclusive)
    (hrates : ∀ code ∈ codes, 0 ≤ code.taxRate) {amount : ℚ} (hscale : AtScale 2 amount) :
    leftOf amount codes = amount ↔ ∀ code ∈ codes, |code.share amount| < 1 / (2 * 10 ^ 2) := by
  induction codes with
  | nil => simp [leftOf]
  | cons code codes ih =>
    rw [List.forall_mem_cons] at hinclusive hrates ⊢
    rw [← ih hinclusive.2 hrates.2, ← halfUp_eq_zero_iff, leftOf]
    constructor
    · intro hleft
      -- what the first code takes and what the others take have the sign of the amount
      have htake : halfUp 2 (code.share amount) = 0 := by
        obtain ⟨hpositive, hnegative⟩ := code.share_between hinclusive.1 hrates.1 amount
        obtain ⟨hrestPositive, hrestNegative⟩ := leftOf_between hinclusive.2 hrates.2
          (hscale.sub (atScale_halfUp 2 (code.share amount)))
        rcases le_total 0 amount with hamount | hamount
        · obtain ⟨hlow, hhigh⟩ := hpositive hamount
          have hmono := halfUp_mono (n := 2) hhigh
          rw [halfUp_of_atScale hscale] at hmono
          have hrest := (hrestPositive (sub_nonneg.mpr hmono)).2
          have hnonneg := halfUp_nonneg (n := 2) hlow
          linarith
        · obtain ⟨hlow, hhigh⟩ := hnegative hamount
          have hmono := halfUp_mono (n := 2) hlow
          have hnonpos := halfUp_mono (n := 2) hhigh
          rw [halfUp_of_atScale hscale] at hmono
          rw [halfUp_zero] at hnonpos
          have hrest := (hrestNegative (sub_nonpos.mpr hmono)).1
          linarith
      refine ⟨htake, ?_⟩
      rwa [htake, sub_zero] at hleft
    · rintro ⟨htake, hleft⟩
      rw [htake, sub_zero, hleft]

/-! ### The taxes of a line -/

/-- The taxes are those of the codes, in their order, each with its recoverable and its other
part. -/
def OfCodes (codes : List (Stored TaxCode)) (taxes : List LineTaxResult) : Prop :=
  List.Forall₂ (fun code tax => tax.taxCodeId = code.id ∧
    tax.isInclusive = code.row.isInclusive ∧
    tax.recoverableAmount + tax.nonRecoverableAmount = tax.taxAmount) codes taxes

theorem OfCodes.cons {codes : List (Stored TaxCode)} {taxes : List LineTaxResult}
    (h : OfCodes codes taxes) (code : Stored TaxCode) (baseAmount taxAmount : ℚ) (sequence : ℕ) :
    OfCodes (code :: codes) (taxResult code baseAmount taxAmount sequence :: taxes) :=
  List.Forall₂.cons ⟨rfl, rfl, add_sub_cancel _ _⟩ h

theorem OfCodes.map_taxCodeId {codes : List (Stored TaxCode)} {taxes : List LineTaxResult}
    (h : OfCodes codes taxes) : taxes.map LineTaxResult.taxCodeId = codes.map Stored.id :=
  map_eq_of_forall₂ h fun _ _ hof => hof.1

theorem extractTaxes_eq_ok {codes : List (Stored TaxCode)}
    (hinclusive : ∀ code ∈ codes, code.row.isInclusive)
    (hdivided : ∀ code ∈ codes, ¬ code.row.Undivided) (amount : ℚ) (sequence : ℕ) :
    ∃ taxes, extractTaxes amount sequence codes =
        .ok (taxes, leftOf amount (codes.map Stored.row)) ∧
      OfCodes codes taxes ∧
      leftOf amount (codes.map Stored.row) + (taxes.map LineTaxResult.taxAmount).sum = amount := by
  induction codes generalizing amount sequence with
  | nil => exact ⟨[], rfl, List.Forall₂.nil, add_zero _⟩
  | cons code codes ih =>
    rw [List.forall_mem_cons] at hinclusive hdivided
    obtain ⟨taxes, htaxes, hof, hsum⟩ := ih hinclusive.2 hdivided.2
      (amount - halfUp 2 (code.row.share amount)) (sequence + 1)
    refine ⟨_, ?_, hof.cons code amount (halfUp 2 (code.row.share amount)) sequence, ?_⟩
    · rw [extractTaxes, calculateSingleTax_eq hdivided.1, if_pos hinclusive.1]
      simp only [htaxes, bind, Except.bind, pure, Except.pure]
      rfl
    · rw [List.map_cons, List.map_cons, List.sum_cons, leftOf, add_left_comm, hsum]
      exact add_sub_cancel _ _

theorem extractTaxes_of_undivided {codes : List (Stored TaxCode)}
    (h : ∃ code ∈ codes, code.row.Undivided) (amount : ℚ) (sequence : ℕ) :
    extractTaxes amount sequence codes = .error .arithmetic := by
  induction codes generalizing amount sequence with
  | nil =>
    obtain ⟨code, hcode, -⟩ := h
    exact absurd hcode List.not_mem_nil
  | cons code codes ih =>
    rw [extractTaxes]
    by_cases hcode : code.row.Undivided
    · rw [calculateSingleTax_of_undivided hcode]
      rfl
    · obtain ⟨code', hmem, hundivided⟩ := h
      have hrest : ∃ code ∈ codes, code.row.Undivided := by
        rcases List.mem_cons.mp hmem with rfl | hmem
        · exact absurd hundivided hcode
        · exact ⟨code', hmem, hundivided⟩
      rw [calculateSingleTax_eq hcode]
      simp only [bind, Except.bind, ih hrest]

theorem addTaxes_eq_ok {codes : List (Stored TaxCode)}
    (hexclusive : ∀ code ∈ codes, ¬ code.row.isInclusive) (netAmount : ℚ)
    (taxes : List LineTaxResult) :
    ∃ added, addTaxes netAmount taxes codes = .ok (taxes ++ added) ∧ OfCodes codes added := by
  induction codes generalizing taxes with
  | nil => exact ⟨[], by rw [addTaxes, List.append_nil], List.Forall₂.nil⟩
  | cons code codes ih =>
    rw [List.forall_mem_cons] at hexclusive
    have hdivided : ¬ code.row.Undivided := fun h => hexclusive.1 h.1
    obtain ⟨base, hbase⟩ : ∃ base, base = if code.row.isCompound then
      netAmount + (taxes.map LineTaxResult.taxAmount).sum else netAmount := ⟨_, rfl⟩
    obtain ⟨added, hadded, hof⟩ := ih hexclusive.2
      (taxes ++ [taxResult code base (halfUp 2 (code.row.share base)) (taxes.length + 1)])
    refine ⟨_, ?_, hof.cons code base (halfUp 2 (code.row.share base)) (taxes.length + 1)⟩
    rw [addTaxes, ← hbase, calculateSingleTax_eq hdivided]
    rw [List.append_assoc, List.singleton_append] at hadded
    exact hadded

/-! ### The order of the codes -/

variable {book : TaxCodeBook} {org : UUID} {transactionDate : Date}

theorem getEffectiveTaxCode_eq_ok {taxCodeId : UUID} {code : Stored TaxCode}
    (h : getEffectiveTaxCode book org taxCodeId transactionDate = .ok code) :
    code.id = taxCodeId ∧ book.codes.get? taxCodeId = some code.row ∧
      code.row.organizationId = org := by
  rw [getEffectiveTaxCode] at h
  cases hget : (book.codes.get? taxCodeId).filter (·.organizationId = org) with
  | none =>
    rw [hget] at h
    exact absurd h (by simp)
  | some row =>
    rw [hget] at h
    obtain ⟨hrow, horganization⟩ := Option.filter_eq_some_iff.mp hget
    have hcode : code = ⟨taxCodeId, row⟩ := by
      simp only at h
      split_ifs at h
      split at h
      · split_ifs at h
        exact (Except.ok.inj h).symm
      · exact (Except.ok.inj h).symm
    subst hcode
    exact ⟨rfl, hrow, of_decide_eq_true horganization⟩

variable {taxCodeIds : List UUID}

theorem effectiveTaxCodes_eq_ok_iff {codes : List (Stored TaxCode)} :
    effectiveTaxCodes book org transactionDate taxCodeIds = .ok codes ↔
      List.Forall₂ (fun taxCodeId code =>
        getEffectiveTaxCode book org taxCodeId transactionDate = .ok code)
        taxCodeIds codes := by
  induction taxCodeIds generalizing codes with
  | nil =>
    rw [effectiveTaxCodes, List.forall₂_nil_left_iff, Except.ok.injEq, eq_comm]
  | cons taxCodeId taxCodeIds ih =>
    rw [effectiveTaxCodes, List.forall₂_cons_left_iff]
    simp only [← ih]
    cases getEffectiveTaxCode book org taxCodeId transactionDate with
    | error e => simp [bind, Except.bind]
    | ok code =>
      cases effectiveTaxCodes book org transactionDate taxCodeIds with
      | error e => simp [bind, Except.bind]
      | ok rest => simp [bind, Except.bind, pure, Except.pure, eq_comm]

theorem map_id_of_effectiveTaxCodes {codes : List (Stored TaxCode)}
    (h : effectiveTaxCodes book org transactionDate taxCodeIds = .ok codes) :
    codes.map Stored.id = taxCodeIds := by
  have hids : codes.map Stored.id = taxCodeIds.map id :=
    map_eq_of_forall₂ (effectiveTaxCodes_eq_ok_iff.mp h)
      fun _ _ hcode => (getEffectiveTaxCode_eq_ok hcode).1
  rwa [List.map_id] at hids

theorem eq_of_taxCode_eq {codes : List (Stored TaxCode)}
    (h : effectiveTaxCodes book org transactionDate taxCodeIds = .ok codes)
    {a b : Stored TaxCode} (ha : a ∈ codes) (hb : b ∈ codes)
    (heq : a.row.taxCode = b.row.taxCode) : a = b := by
  have hstored : ∀ code ∈ codes, book.codes.get? code.id = some code.row ∧
      code.row.organizationId = org := by
    intro code hcode
    obtain ⟨taxCodeId, -, hid⟩ := exists_of_forall₂ (effectiveTaxCodes_eq_ok_iff.mp h) hcode
    obtain ⟨rfl, hrow⟩ := getEffectiveTaxCode_eq_ok hid
    exact hrow
  obtain ⟨hrow, horganization⟩ := hstored a ha
  obtain ⟨hrow', horganization'⟩ := hstored b hb
  have hid := book.unique _ _ _ _ hrow hrow' (horganization.trans horganization'.symm) heq
  rw [← hid, hrow] at hrow'
  cases a
  cases b
  simp only at hid hrow'
  rw [hid, Option.some.inj hrow']

theorem sortCodes_perm (codes : List (Stored TaxCode)) : (sortCodes codes).Perm codes :=
  List.perm_insertionSort _ codes

theorem sortCodes_eq_of_perm {codes codes' : List (Stored TaxCode)} (h : codes.Perm codes')
    (hunique : ∀ a ∈ codes', ∀ b ∈ codes', a.row.taxCode = b.row.taxCode → a = b) :
    sortCodes codes = sortCodes codes' := by
  let before := fun a b : Stored TaxCode =>
    toLex (a.row.isCompound, a.row.taxCode) ≤ toLex (b.row.isCompound, b.row.taxCode)
  have : Std.Total before := ⟨fun a b => le_total _ _⟩
  have : IsTrans (Stored TaxCode) before := ⟨fun a b c => le_trans⟩
  have hsorted (l : List (Stored TaxCode)) : (sortCodes l).Pairwise before :=
    List.pairwise_insertionSort before l
  refine List.Perm.eq_of_pairwise (fun a b ha hb hab hba => ?_) (hsorted codes) (hsorted codes')
    ((sortCodes_perm codes).trans (h.trans (sortCodes_perm codes').symm))
  have hkey := toLex.injective (le_antisymm hab hba)
  refine hunique a ?_ b ((sortCodes_perm codes').mem_iff.mp hb) (Prod.mk.inj hkey).2
  exact h.mem_iff.mp ((sortCodes_perm codes).mem_iff.mp ha)

def taxesOfSorted (lineAmount : ℚ) (sorted : List (Stored TaxCode)) :
    Except TaxError LineCalculationResult := do
  let inclusiveTaxes := sorted.filter (·.row.isInclusive)
  let exclusiveTaxes := sorted.filter (!·.row.isInclusive)
  let (extracted, netAmount) ← extractTaxes lineAmount 1 inclusiveTaxes
  let taxes ← addTaxes netAmount extracted exclusiveTaxes
  pure (lineResult lineAmount netAmount taxes
    (!inclusiveTaxes.isEmpty && exclusiveTaxes.isEmpty))

theorem calculateLineTaxes_eq {codes : List (Stored TaxCode)}
    (hcodes : effectiveTaxCodes book org transactionDate taxCodeIds = .ok codes)
    (lineAmount : ℚ) :
    calculateLineTaxes book org lineAmount taxCodeIds transactionDate =
      taxesOfSorted lineAmount (sortCodes codes) := by
  cases taxCodeIds with
  | nil =>
    -- the line without codes is the general line with nothing in it
    obtain rfl : [] = codes := Except.ok.inj hcodes
    rw [calculateLineTaxes, taxesOfSorted]
    simp [sortCodes, extractTaxes, addTaxes, lineResult, bind, Except.bind, pure, Except.pure]
  | cons taxCodeId taxCodeIds =>
    rw [calculateLineTaxes, List.isEmpty_cons, if_neg Bool.false_ne_true, hcodes]
    rfl

/-- **The order in which the codes are given does not matter.** -/
theorem calculateLineTaxes_perm {taxCodeIds' : List UUID} {codes : List (Stored TaxCode)}
    (hcodes : effectiveTaxCodes book org transactionDate taxCodeIds = .ok codes)
    (hperm : taxCodeIds'.Perm taxCodeIds) (lineAmount : ℚ) :
    calculateLineTaxes book org lineAmount taxCodeIds' transactionDate =
      calculateLineTaxes book org lineAmount taxCodeIds transactionDate := by
  obtain ⟨codes', hall, hcodesPerm⟩ :=
    List.perm_comp_forall₂ hperm (effectiveTaxCodes_eq_ok_iff.mp hcodes)
  rw [calculateLineTaxes_eq hcodes, calculateLineTaxes_eq (effectiveTaxCodes_eq_ok_iff.mpr hall),
    sortCodes_eq_of_perm hcodesPerm fun a ha b hb => eq_of_taxCode_eq hcodes ha hb]

/-! ### The totals of a line -/

/-- The totals of a line: what was taken out of the price and what is left make up the price, the
taxes are those of the codes, each with its two parts, and the gross amount is the net amount with
all of them. -/
structure TotalsAgree (lineAmount : ℚ) (taxCodeIds : List UUID) (result : LineCalculationResult) :
    Prop where
  net : result.netAmount +
    ((result.taxes.filter (·.isInclusive)).map LineTaxResult.taxAmount).sum = lineAmount
  total : result.totalTax = (result.taxes.map LineTaxResult.taxAmount).sum
  gross : result.grossAmount = result.netAmount + result.totalTax
  parts : ∀ tax ∈ result.taxes,
    tax.recoverableAmount + tax.nonRecoverableAmount = tax.taxAmount
  each : (result.taxes.map LineTaxResult.taxCodeId).Perm taxCodeIds

def Regular (lineAmount : ℚ) (codes : List (Stored TaxCode)) : Prop :=
  AtScale 2 lineAmount ∧ ∀ code ∈ codes, code.row.isInclusive → 0 ≤ code.row.taxRate

def includedCodes (codes : List (Stored TaxCode)) : List TaxCode :=
  ((sortCodes codes).filter (·.row.isInclusive)).map Stored.row

/-- The codes are all included or all not, or else the shares of those that are included come to
nothing: in a regular line each is less than half a cent, in another they cancel out. -/
def Unmixed (lineAmount : ℚ) (codes : List (Stored TaxCode)) : Prop :=
  (∀ code ∈ codes, code.row.isInclusive) ∨ (∀ code ∈ codes, ¬ code.row.isInclusive) ∨
    (Regular lineAmount codes ∧
      ∀ code ∈ codes, code.row.isInclusive → |code.row.share lineAmount| < 1 / (2 * 10 ^ 2)) ∨
    (¬ Regular lineAmount codes ∧ (sharesInTurn lineAmount (includedCodes codes)).sum = 0)

theorem taxesOfSorted_eq_ok {sorted : List (Stored TaxCode)}
    (hdivided : ∀ code ∈ sorted, ¬ code.row.Undivided) (lineAmount : ℚ) :
    ∃ extracted added netAmount,
      netAmount = leftOf lineAmount ((sorted.filter (·.row.isInclusive)).map Stored.row) ∧
      OfCodes (sorted.filter (·.row.isInclusive)) extracted ∧
      OfCodes (sorted.filter (!·.row.isInclusive)) added ∧
      netAmount + (extracted.map LineTaxResult.taxAmount).sum = lineAmount ∧
      taxesOfSorted lineAmount sorted = .ok (lineResult lineAmount netAmount (extracted ++ added)
        (!(sorted.filter (·.row.isInclusive)).isEmpty &&
          (sorted.filter (!·.row.isInclusive)).isEmpty)) := by
  have hinclusive : ∀ code ∈ sorted.filter (·.row.isInclusive), code.row.isInclusive :=
    fun code hcode => (List.mem_filter.mp hcode).2
  have hexclusive : ∀ code ∈ sorted.filter (!·.row.isInclusive), ¬ code.row.isInclusive :=
    fun code hcode => by simpa using (List.mem_filter.mp hcode).2
  obtain ⟨extracted, hextracted, hof, hsum⟩ := extractTaxes_eq_ok hinclusive
    (fun code hcode => hdivided code (List.mem_filter.mp hcode).1) lineAmount 1
  obtain ⟨netAmount, hnet⟩ : ∃ netAmount, netAmount =
    leftOf lineAmount ((sorted.filter (·.row.isInclusive)).map Stored.row) := ⟨_, rfl⟩
  rw [← hnet] at hextracted hsum
  obtain ⟨added, hadded, hof'⟩ := addTaxes_eq_ok hexclusive netAmount extracted
  refine ⟨extracted, added, netAmount, hnet, hof, hof', hsum, ?_⟩
  simp only [taxesOfSorted, hextracted, bind, Except.bind, hadded, pure, Except.pure]

theorem filter_isInclusive {codes : List (Stored TaxCode)} {extracted added : List LineTaxResult}
    (hof : OfCodes (codes.filter (·.row.isInclusive)) extracted)
    (hof' : OfCodes (codes.filter (!·.row.isInclusive)) added) :
    (extracted ++ added).filter (·.isInclusive) = extracted ∧
      (extracted ++ added).filter (!·.isInclusive) = added := by
  have hincluded : ∀ tax ∈ extracted, tax.isInclusive = true := by
    intro tax htax
    obtain ⟨code, hcode, -, heq, -⟩ := exists_of_forall₂ hof htax
    rw [heq]
    exact (List.mem_filter.mp hcode).2
  have hadded : ∀ tax ∈ added, tax.isInclusive = false := by
    intro tax htax
    obtain ⟨code, hcode, -, heq, -⟩ := exists_of_forall₂ hof' htax
    rw [heq]
    simpa using (List.mem_filter.mp hcode).2
  constructor
  · rw [List.filter_append, List.filter_eq_self.mpr hincluded,
      List.filter_eq_nil_iff.mpr fun tax htax => by simp [hadded tax htax], List.append_nil]
  · rw [List.filter_append, List.filter_eq_nil_iff.mpr fun tax htax => by
      simp [hincluded tax htax], List.nil_append,
      List.filter_eq_self.mpr fun tax htax => by simp [hadded tax htax]]

/-- A line whose codes are not mixed is one without codes on top, or one from whose price nothing
is taken. -/
theorem unmixed_iff {lineAmount : ℚ} {codes : List (Stored TaxCode)} :
    Unmixed lineAmount codes ↔ (sortCodes codes).filter (!·.row.isInclusive) = [] ∨
      leftOf lineAmount (includedCodes codes) = lineAmount := by
  have hmem : ∀ code ∈ includedCodes codes, ∃ stored ∈ codes, stored.row = code ∧
      code.isInclusive := by
    intro code hcode
    obtain ⟨stored, hstored, rfl⟩ := List.mem_map.mp hcode
    obtain ⟨hin, hinclusive⟩ := List.mem_filter.mp hstored
    exact ⟨stored, (sortCodes_perm codes).mem_iff.mp hin, rfl, hinclusive⟩
  have hmem' : ∀ stored ∈ codes, stored.row.isInclusive → stored.row ∈ includedCodes codes :=
    fun stored hin hinclusive => List.mem_map_of_mem
      (List.mem_filter.mpr ⟨(sortCodes_perm codes).mem_iff.mpr hin, hinclusive⟩)
  have hregular (h : Regular lineAmount codes) :
      leftOf lineAmount (includedCodes codes) = lineAmount ↔ ∀ code ∈ codes,
        code.row.isInclusive → |code.row.share lineAmount| < 1 / (2 * 10 ^ 2) := by
    rw [leftOf_eq_iff (fun code hcode => (hmem code hcode).choose_spec.2.2) (fun code hcode => ?_)
      h.1]
    · constructor
      · intro hall stored hin hinclusive
        exact hall stored.row (hmem' stored hin hinclusive)
      · intro hall code hcode
        obtain ⟨stored, hin, rfl, hinclusive⟩ := hmem code hcode
        exact hall stored hin hinclusive
    · obtain ⟨stored, hin, rfl, hinclusive⟩ := hmem code hcode
      exact h.2 stored hin hinclusive
  have hexclusive : (sortCodes codes).filter (!·.row.isInclusive) = [] ↔
      ∀ code ∈ codes, code.row.isInclusive := by
    rw [List.filter_eq_nil_iff]
    simp only [(sortCodes_perm codes).mem_iff, Bool.not_eq_true', Bool.not_eq_false]
  have hcancel : (sharesInTurn lineAmount (includedCodes codes)).sum = 0 ↔
      leftOf lineAmount (includedCodes codes) = lineAmount := by
    rw [← add_eq_left (a := leftOf lineAmount (includedCodes codes)), leftOf_add_sum, eq_comm]
  rw [hexclusive, Unmixed, hcancel]
  constructor
  · rintro (hall | hnone | ⟨hreg, hsmall⟩ | ⟨-, hleft⟩)
    · exact Or.inl hall
    · refine Or.inr ?_
      have hempty : includedCodes codes = [] := by
        rw [List.eq_nil_iff_forall_not_mem]
        intro code hcode
        obtain ⟨stored, hin, rfl, hinclusive⟩ := hmem code hcode
        exact hnone stored hin hinclusive
      rw [hempty, leftOf]
    · exact Or.inr ((hregular hreg).mpr hsmall)
    · exact Or.inr hleft
  · rintro (hall | hleft)
    · exact Or.inl hall
    · by_cases hreg : Regular lineAmount codes
      · exact Or.inr (Or.inr (Or.inl ⟨hreg, (hregular hreg).mp hleft⟩))
      · exact Or.inr (Or.inr (Or.inr ⟨hreg, hleft⟩))

theorem lineResult_agrees_iff {codes : List (Stored TaxCode)}
    (hids : (codes.map Stored.id).Perm taxCodeIds) {extracted added : List LineTaxResult}
    (hof : OfCodes (codes.filter (·.row.isInclusive)) extracted)
    (hof' : OfCodes (codes.filter (!·.row.isInclusive)) added) {lineAmount netAmount : ℚ}
    (hsum : netAmount + (extracted.map LineTaxResult.taxAmount).sum = lineAmount) :
    TotalsAgree lineAmount taxCodeIds (lineResult lineAmount netAmount (extracted ++ added)
        (!(codes.filter (·.row.isInclusive)).isEmpty &&
          (codes.filter (!·.row.isInclusive)).isEmpty)) ↔
      codes.filter (!·.row.isInclusive) = [] ∨ netAmount = lineAmount := by
  obtain ⟨hincluded, hadded⟩ := filter_isInclusive hof hof'
  have htotal : ((extracted ++ added).map LineTaxResult.taxAmount).sum =
      (extracted.map LineTaxResult.taxAmount).sum + (added.map LineTaxResult.taxAmount).sum := by
    rw [List.map_append, List.sum_append]
  constructor
  · intro h
    have hgross := h.gross
    by_cases hexclusive : codes.filter (!·.row.isInclusive) = []
    · exact Or.inl hexclusive
    · refine Or.inr ?_
      rw [lineResult, if_neg (by simp [List.isEmpty_iff, hexclusive]), hadded, htotal] at hgross
      linarith
  · intro h
    refine ⟨?_, rfl, ?_, ?_, ?_⟩
    · rw [lineResult, hincluded]
      exact hsum
    · rw [lineResult, hadded, htotal]
      split_ifs with honly
      · have hexclusive : codes.filter (!·.row.isInclusive) = [] := by
          simpa using (Bool.and_eq_true_iff.mp honly).2
        rw [hexclusive] at hof'
        rw [List.forall₂_nil_left_iff.mp hof', List.map_nil, List.sum_nil, add_zero]
        exact hsum.symm
      · rcases h with hexclusive | hnet
        · -- without any code at all nothing is taken
          have hinclusive : codes.filter (·.row.isInclusive) = [] := by
            simpa [hexclusive] using honly
          rw [hinclusive] at hof
          rw [List.forall₂_nil_left_iff.mp hof, List.map_nil, List.sum_nil, zero_add]
        · linarith
    · intro tax htax
      rcases List.mem_append.mp htax with htax | htax
      · exact (exists_of_forall₂ hof htax).choose_spec.2.2.2
      · exact (exists_of_forall₂ hof' htax).choose_spec.2.2.2
    · rw [lineResult, List.map_append, hof.map_taxCodeId, hof'.map_taxCodeId, ← List.map_append]
      exact ((List.filter_append_perm _ codes).map Stored.id).trans hids

theorem totalsAgree_iff {codes : List (Stored TaxCode)}
    (hcodes : effectiveTaxCodes book org transactionDate taxCodeIds = .ok codes)
    (hdivided : ∀ code ∈ codes, ¬ code.row.Undivided) (lineAmount : ℚ) :
    (∃ result, calculateLineTaxes book org lineAmount taxCodeIds transactionDate =
        .ok result ∧ TotalsAgree lineAmount taxCodeIds result) ↔ Unmixed lineAmount codes := by
  obtain ⟨extracted, added, netAmount, hnet, hof, hof', hsum, hresult⟩ :=
    taxesOfSorted_eq_ok (fun code hcode =>
      hdivided code ((sortCodes_perm codes).mem_iff.mp hcode)) lineAmount
  have hids : ((sortCodes codes).map Stored.id).Perm taxCodeIds := by
    rw [← map_id_of_effectiveTaxCodes hcodes]
    exact (sortCodes_perm codes).map Stored.id
  have hagrees := lineResult_agrees_iff hids hof hof' hsum
  rw [calculateLineTaxes_eq hcodes, hresult, unmixed_iff, includedCodes, ← hnet, ← hagrees]
  constructor
  · rintro ⟨result, heq, hagree⟩
    rwa [← Except.ok.inj heq] at hagree
  · intro h
    exact ⟨_, rfl, h⟩

theorem calculateLineTaxes_of_undivided {codes : List (Stored TaxCode)}
    (hcodes : effectiveTaxCodes book org transactionDate taxCodeIds = .ok codes)
    (hundivided : ∃ code ∈ codes, code.row.Undivided) (lineAmount : ℚ) :
    calculateLineTaxes book org lineAmount taxCodeIds transactionDate =
      .error .arithmetic := by
  obtain ⟨code, hcode, hcodeUndivided⟩ := hundivided
  have hmem : code ∈ (sortCodes codes).filter (·.row.isInclusive) :=
    List.mem_filter.mpr ⟨(sortCodes_perm codes).mem_iff.mpr hcode, hcodeUndivided.1⟩
  rw [calculateLineTaxes_eq hcodes, taxesOfSorted,
    extractTaxes_of_undivided ⟨code, hmem, hcodeUndivided⟩]
  rfl

/-! ### The totals of an invoice -/

theorem calculateInvoiceTaxes_eq (book : TaxCodeBook) (org : UUID)
    (lines : List InvoiceLineTaxInput) (transactionDate : Date) :
    calculateInvoiceTaxes book org lines transactionDate =
      (calculateLines book org transactionDate lines).map fun results =>
        { lines := results
          totalTax := (results.map LineCalculationResult.totalTax).sum
          totalNet := (results.map LineCalculationResult.netAmount).sum
          totalGross := (results.map LineCalculationResult.grossAmount).sum } := by
  have hfold (results : List LineCalculationResult) (invoice : InvoiceTaxResult) :
      results.foldl (fun invoice result =>
        { lines := invoice.lines ++ [result]
          totalTax := invoice.totalTax + result.totalTax
          totalNet := invoice.totalNet + result.netAmount
          totalGross := invoice.totalGross + result.grossAmount }) invoice =
      { lines := invoice.lines ++ results
        totalTax := invoice.totalTax + (results.map LineCalculationResult.totalTax).sum
        totalNet := invoice.totalNet + (results.map LineCalculationResult.netAmount).sum
        totalGross := invoice.totalGross +
          (results.map LineCalculationResult.grossAmount).sum } := by
    induction results generalizing invoice with
    | nil => simp
    | cons result results ih =>
      rw [List.foldl_cons, ih]
      simp only [List.append_assoc, List.singleton_append, List.map_cons, List.sum_cons,
        add_assoc]
  rw [calculateInvoiceTaxes]
  cases calculateLines book org transactionDate lines with
  | error e => rfl
  | ok results =>
    simp only [bind, Except.bind, pure, Except.pure, hfold, Except.map, List.nil_append, zero_add]

/-- An invoice has the results of its lines, and their totals. -/
def InvoiceAgrees (book : TaxCodeBook) (org : UUID) (transactionDate : Date) : Prop :=
  ∀ lines invoice,
    calculateInvoiceTaxes book org lines transactionDate = .ok invoice →
    List.Forall₂ (fun line result => calculateLineTaxes book org line.lineAmount
      line.taxCodeIds transactionDate = .ok result) lines invoice.lines ∧
    invoice.totalTax = (invoice.lines.map LineCalculationResult.totalTax).sum ∧
    invoice.totalNet = (invoice.lines.map LineCalculationResult.netAmount).sum ∧
    invoice.totalGross = (invoice.lines.map LineCalculationResult.grossAmount).sum

theorem invoiceAgrees (book : TaxCodeBook) (org : UUID) (transactionDate : Date) :
    InvoiceAgrees book org transactionDate := by
  intro lines invoice hinvoice
  rw [calculateInvoiceTaxes_eq] at hinvoice
  cases hlines : calculateLines book org transactionDate lines with
  | error e =>
    rw [hlines] at hinvoice
    cases hinvoice
  | ok results =>
    rw [hlines] at hinvoice
    cases hinvoice
    refine ⟨?_, rfl, rfl, rfl⟩
    induction lines generalizing results with
    | nil =>
      rw [← Except.ok.inj hlines]
      exact List.Forall₂.nil
    | cons line lines ih =>
      rw [calculateLines] at hlines
      cases hline : calculateLineTaxes book org line.lineAmount line.taxCodeIds
          transactionDate with
      | error e =>
        rw [hline] at hlines
        cases hlines
      | ok result =>
        cases hrest : calculateLines book org transactionDate lines with
        | error e =>
          rw [hline, hrest] at hlines
          cases hlines
        | ok rest =>
          rw [hline, hrest] at hlines
          cases hlines
          exact List.Forall₂.cons hline (ih rest hrest)

/-! ### Mixed codes -/

/-- **The totals of a line** agree, in whatever order its codes are given, if and only if something
can be extracted by each included code, and the codes are not mixed, or the included ones take
nothing. The totals of an invoice are always those of its lines. -/
theorem lineTotals_iff {book : TaxCodeBook} {org : UUID} {transactionDate : Date}
    {taxCodeIds : List UUID} {codes : List (Stored TaxCode)}
    (hcodes : effectiveTaxCodes book org transactionDate taxCodeIds = .ok codes)
    (lineAmount : ℚ) :
    ((∃ result, calculateLineTaxes book org lineAmount taxCodeIds transactionDate =
        .ok result ∧ TotalsAgree lineAmount taxCodeIds result) ∧
      (∀ taxCodeIds', taxCodeIds'.Perm taxCodeIds →
        calculateLineTaxes book org lineAmount taxCodeIds' transactionDate =
          calculateLineTaxes book org lineAmount taxCodeIds transactionDate) ∧
      InvoiceAgrees book org transactionDate) ↔
    (∀ code ∈ codes, ¬ code.row.Undivided) ∧ Unmixed lineAmount codes := by
  by_cases hdivided : ∀ code ∈ codes, ¬ code.row.Undivided
  · rw [totalsAgree_iff hcodes hdivided]
    constructor
    · rintro ⟨hunmixed, -⟩
      exact ⟨hdivided, hunmixed⟩
    · rintro ⟨-, hunmixed⟩
      exact ⟨hunmixed, fun taxCodeIds' hperm => calculateLineTaxes_perm hcodes hperm lineAmount,
        invoiceAgrees book org transactionDate⟩
  · constructor
    · rintro ⟨⟨result, hresult, -⟩, -⟩
      push Not at hdivided
      rw [calculateLineTaxes_of_undivided hcodes hdivided] at hresult
      cases hresult
    · rintro ⟨hall, -⟩
      exact absurd hall hdivided

def vatIncluded : TaxCode where
  organizationId := 1
  taxCode := "VAT-INC"
  taxName := "VAT in the price"
  taxRate := 1 / 10
  effectiveFrom := ⟨2024, 6, 1, by decide⟩
  isInclusive := true

def levyOnTop : TaxCode :=
  { vatIncluded with
    taxCode := "LEVY"
    taxName := "Levy"
    isInclusive := false }

def bookOfTwo (first second : TaxCode) (hne : first.taxCode ≠ second.taxCode) : TaxCodeBook where
  codes := (Table.empty.insert first).insert second
  unique := by
    intro k k' code code' h h' _ htext
    have hrow {k : ℕ} {code : TaxCode}
        (h : ((Table.empty.insert first).insert second).get? k = some code) :
        (k = 0 ∧ code = first) ∨ (k = 1 ∧ code = second) := by
      have hmem := Table.get?_eq_some.mp h
      simpa [Table.insert, Table.empty] using hmem
    rcases hrow h with ⟨rfl, rfl⟩ | ⟨rfl, rfl⟩ <;> rcases hrow h' with ⟨rfl, rfl⟩ | ⟨rfl, rfl⟩
    · rfl
    · exact absurd htext hne
    · exact absurd htext.symm hne
    · rfl

def mixedBook : TaxCodeBook := bookOfTwo vatIncluded levyOnTop (by decide)

theorem mixedBook_codes : effectiveTaxCodes mixedBook 1 ⟨2024, 7, 1, by decide⟩ [0, 1] =
    .ok [⟨0, vatIncluded⟩, ⟨1, levyOnTop⟩] := by
  decide +kernel

/-- Of five cents the tax in the price takes nothing, and the totals agree. -/
theorem lineTotals_iff_sample :
    (∃ result, calculateLineTaxes mixedBook 1 (1 / 20) [0, 1] ⟨2024, 7, 1, by decide⟩ =
        .ok result ∧ TotalsAgree (1 / 20) [0, 1] result) ∧
      (∀ taxCodeIds', taxCodeIds'.Perm [0, 1] →
        calculateLineTaxes mixedBook 1 (1 / 20) taxCodeIds' ⟨2024, 7, 1, by decide⟩ =
          calculateLineTaxes mixedBook 1 (1 / 20) [0, 1] ⟨2024, 7, 1, by decide⟩) ∧
      InvoiceAgrees mixedBook 1 ⟨2024, 7, 1, by decide⟩ := by
  refine (lineTotals_iff mixedBook_codes (1 / 20)).mpr ⟨by decide +kernel, ?_⟩
  refine Or.inr (Or.inr (Or.inl ⟨⟨⟨5, by norm_num⟩, by decide +kernel⟩, ?_⟩))
  decide +kernel

/-- Of a line of 100 with a tax in the price and a levy on top, the gross amount is 100: the tax
that was taken out of the price is missing from it. -/
theorem mixed_codes : ¬ ∀ (book : TaxCodeBook) (org : UUID) (transactionDate : Date)
    (taxCodeIds : List UUID) (codes : List (Stored TaxCode)) (lineAmount : ℚ),
    taxCodeIds.Nodup →
    effectiveTaxCodes book org transactionDate taxCodeIds = .ok codes →
    ∃ result, calculateLineTaxes book org lineAmount taxCodeIds transactionDate =
      .ok result ∧ TotalsAgree lineAmount taxCodeIds result := by
  intro h
  obtain ⟨result, hresult, hagree⟩ :=
    h mixedBook 1 ⟨2024, 7, 1, by decide⟩ [0, 1] _ 100 (by decide) mixedBook_codes
  have hamounts : (calculateLineTaxes mixedBook 1 100 [0, 1] ⟨2024, 7, 1, by decide⟩).map
      (fun result => (result.netAmount, result.totalTax, result.grossAmount)) =
      .ok (9091 / 100, 1818 / 100, 100) := by
    decide +kernel
  rw [hresult] at hamounts
  obtain ⟨hnet, hamounts⟩ := Prod.mk.inj (Except.ok.inj hamounts)
  obtain ⟨htotal, hgross⟩ := Prod.mk.inj hamounts
  have hgrossTotal := hagree.gross
  rw [hnet, htotal, hgross] at hgrossTotal
  norm_num at hgrossTotal

end DotmacErp.TaxCalculation
