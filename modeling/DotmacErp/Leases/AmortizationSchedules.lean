import DotmacErp.Leases.Modifications
import Mathlib.Data.List.Chain

/-!
# Amortization schedules

What a schedule owes the liability it amortizes (`IsConsistent`), and that no lease has such a
schedule: the number of periods of a contract that is read back is a decimal, so the loop over the
periods raises before its first line (`generateAmortizationSchedule_eq_error`).
-/

namespace DotmacErp.Leases

open Relational

/-- A schedule of a liability is consistent: each line opens with what the line before closed with,
it ends at zero, its principal adds up to the liability, interest and principal are the payment, in
the last line to within a cent for each period, and so is its interest the interest of the
liability. -/
structure IsConsistent (entries : List PaymentScheduleEntry)
    (initial : LiabilityCalculationResult) : Prop where
  chained : entries.IsChain fun earlier later => later.openingBalance = earlier.closingBalance
  ends : ∀ entry ∈ entries.getLast?, entry.closingBalance = 0
  principal : (entries.map PaymentScheduleEntry.principalReduction).sum = initial.totalLiability
  lines : ∀ entry ∈ entries.dropLast,
    entry.interestExpense + entry.principalReduction = entry.paymentAmount
  last : ∀ entry ∈ entries.getLast?,
    |entry.interestExpense + entry.principalReduction - entry.paymentAmount| ≤
      entries.length / 100
  interest : |(entries.map PaymentScheduleEntry.interestExpense).sum - initial.totalInterest| ≤
    entries.length / 100

/-- A lease has the schedule the claim on its liability asks for. -/
def HasSchedule (upper : String → String) (contracts : Table LeaseContract)
    (liabilities : Table LeaseLiability) (leaseId : UUID)
    (initial : LiabilityCalculationResult) : Prop :=
  ∃ entries, generateAmortizationSchedule upper contracts liabilities leaseId = .ok entries ∧
    IsConsistent entries initial

variable {upper : String → String} {contracts : Table LeaseContract}
  {liabilities : Table LeaseLiability} {leaseId : UUID} {contract : LeaseContract}
  {liability : Stored LeaseLiability}

/-- Whatever its frequency, timing, term and rate are, the schedule of a contract with a liability
raises. -/
theorem generateAmortizationSchedule_eq_error (upper : String → String)
    (hcontract : contracts.get? leaseId = some contract)
    (hliability : liabilities.find? (fun row => decide (row.leaseId = leaseId)) =
      some liability) :
    generateAmortizationSchedule upper contracts liabilities leaseId = .error .typeError := by
  rw [generateAmortizationSchedule, hcontract]
  simp only [hliability]
  rfl

/-- **No lease has a schedule.** -/
theorem no_schedule (upper : String → String) (contracts : Table LeaseContract)
    (liabilities : Table LeaseLiability) (leaseId : UUID)
    (initial : LiabilityCalculationResult) :
    ¬ HasSchedule upper contracts liabilities leaseId initial := by
  rintro ⟨entries, hentries, -⟩
  cases hcontract : contracts.get? leaseId with
  | none => simp [generateAmortizationSchedule, hcontract] at hentries
  | some contract =>
    cases hliability : liabilities.find? (fun row => decide (row.leaseId = leaseId)) with
    | none => simp [generateAmortizationSchedule, hcontract, hliability] at hentries
    | some liability =>
      rw [generateAmortizationSchedule_eq_error upper hcontract hliability] at hentries
      cases hentries

/-- A monthly lease of twelve months, without lump sums and measured as the service measures it,
has none. -/
theorem monthly_lease_has_no_schedule : ¬ ∀ (upper : String → String)
    (contracts : Table LeaseContract) (liabilities : Table LeaseLiability) (leaseId : UUID)
    (contract : LeaseContract) (liability : Stored LeaseLiability)
    (initial : LiabilityCalculationResult),
    contracts.get? leaseId = some contract →
    liabilities.find? (fun row => decide (row.leaseId = leaseId)) = some liability →
    calculateInitialLiability upper contract = .ok initial →
    liability.row.initialLiabilityAmount = initial.totalLiability →
    0 ≤ contract.discountRateUsed →
    HasSchedule upper contracts liabilities leaseId initial := by
  intro h
  obtain ⟨initial, hinitial, htotal⟩ : ∃ initial,
      calculateInitialLiability id monthlyLease = .ok initial ∧
        initial.totalLiability = 11367.63 := by
    refine (calculateInitialLiability_of_noLumps id ⟨?_, ?_⟩ _).mpr ⟨Or.inl ?_, ?_⟩
    all_goals decide +kernel
  obtain ⟨entries, hentries, -⟩ := h id monthlyLeases.contracts monthlyLeases.liabilities
    monthlyChange.leaseId _ _
    initial isActiveLease_monthly.contract_eq isActiveLease_monthly.liability_eq hinitial
    htotal.symm (by decide +kernel)
  rw [generateAmortizationSchedule_eq_error id isActiveLease_monthly.contract_eq
    isActiveLease_monthly.liability_eq] at hentries
  cases hentries

end DotmacErp.Leases
