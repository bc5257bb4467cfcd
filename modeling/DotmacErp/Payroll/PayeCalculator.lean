import DotmacErp.Payroll.TaxBands

/-!
# The PAYE calculation

`PAYECalculator.calculate`: the year's pay less the statutory deductions and the rent relief is
taxed band by band. The rates and the rent come with the call, or from the tax profile of the
employee, or are the defaults; the bands are those in force on the day of the call, in the order of
their sequence numbers, or those of the act when an organization has none. An exempt employee is
not taxed.

Decimals are exact here. The day of a call comes with the call. The other numbers of a tax profile
(pins, codes, receipts) are left out, as are the displays of a breakdown.
-/

namespace DotmacErp.Payroll

open Calendar

structure EmployeeTaxProfile where
  organizationId : UUID
  employeeId : UUID
  tin : Option String
  taxState : Option String
  annualRent : ℚ
  rentReceiptVerified : Bool
  pensionRate : ℚ
  nhfRate : ℚ
  nhisRate : ℚ
  isTaxExempt : Bool
  effectiveFrom : Date
  effectiveTo : Option Date

/-- What the calculation reads. -/
structure PayeBooks where
  taxBands : List TaxBand
  taxProfiles : List EmployeeTaxProfile

structure TaxBandBreakdown where
  bandName : String
  minAmount : ℚ
  maxAmount : Option ℚ
  rate : ℚ
  taxableInBand : ℚ
  taxAmount : ℚ

structure PayeBreakdown where
  annualGross : ℚ
  annualBasic : ℚ
  annualTransport : ℚ
  annualHousing : ℚ
  annualPensionBase : ℚ
  annualRent : ℚ
  pensionAmount : ℚ
  pensionRate : ℚ
  employerPensionAmount : ℚ
  employerPensionRate : ℚ
  nhfAmount : ℚ
  nhfRate : ℚ
  nhisAmount : ℚ
  nhisRate : ℚ
  totalStatutory : ℚ
  rentRelief : ℚ
  rentReliefRate : ℚ
  taxableIncome : ℚ
  bandBreakdowns : List TaxBandBreakdown
  annualTax : ℚ
  monthlyTax : ℚ
  monthlyPension : ℚ
  monthlyEmployerPension : ℚ
  monthlyNhf : ℚ
  monthlyNhis : ℚ
  effectiveRate : ℚ
  employeeId : Option UUID
  tin : Option String
  taxState : Option String
  isTaxExempt : Bool

/-- The arguments of `calculate`. -/
structure PayeInput where
  organizationId : UUID
  grossMonthly : ℚ
  basicMonthly : ℚ
  employeeId : Option UUID
  transportMonthly : Option ℚ
  housingMonthly : Option ℚ
  annualRent : Option ℚ
  rentVerified : Bool
  pensionRate : Option ℚ
  employerPensionRate : Option ℚ
  nhfRate : Option ℚ
  nhisRate : Option ℚ
  asOfDate : Date

/-! ### Constants -/

def rentReliefRate : ℚ := 20 / 100

def rentReliefMax : ℚ := 500000

def defaultPensionRate : ℚ := 8 / 100

def defaultEmployerPensionRate : ℚ := 10 / 100

def defaultNhfRate : ℚ := 25 / 1000

def defaultNhisRate : ℚ := 0

def monthsPerYear : ℚ := 12

/-- `_create_band_from_def`, without the one who creates it. -/
def createBandFromDef (org : UUID) (effectiveFrom : Date)
    (name : String) (minAmount : ℚ) (maxAmount : Option ℚ) (rate : ℚ) (sequence : ℤ) : TaxBand where
  taxBandId := none
  organizationId := org
  name
  minAmount
  maxAmount
  rate
  effectiveFrom
  effectiveTo := none
  sequence
  isActive := true

/-- `_get_default_bands`: the bands of `NTA_2025_BANDS`. -/
def getDefaultBands (org : UUID) (asOfDate : Date) : List TaxBand :=
  let create := createBandFromDef org asOfDate
  [create "NTA 2025 - 0%" 0 (some 800000) 0 1,
    create "NTA 2025 - 15%" 800000 (some 3000000) (15 / 100) 2,
    create "NTA 2025 - 18%" 3000000 (some 12000000) (18 / 100) 3,
    create "NTA 2025 - 21%" 12000000 (some 25000000) (21 / 100) 4,
    create "NTA 2025 - 23%" 25000000 (some 50000000) (23 / 100) 5,
    create "NTA 2025 - 25%" 50000000 none (25 / 100) 6]

/-! ### The calculation -/

/-- `_get_tax_profile`: the latest profile of an employee in force on a day. -/
def getTaxProfile (books : PayeBooks) (org employeeId : UUID) (asOfDate : Date) :
    Option EmployeeTaxProfile :=
  ((books.taxProfiles.filter fun profile =>
    decide (profile.organizationId = org ∧ profile.employeeId = employeeId ∧
      profile.effectiveFrom ≤ asOfDate ∧ ∀ d ∈ profile.effectiveTo, asOfDate ≤ d)).insertionSort
    fun a b => b.effectiveFrom ≤ a.effectiveFrom).head?

def bandsBySequence (books : PayeBooks) (org : UUID) (asOfDate : Date) : List TaxBand :=
  (books.taxBands.filter fun band => decide (band.InForce org asOfDate)).insertionSort
    fun a b => a.sequence ≤ b.sequence

def getTaxBands (books : PayeBooks) (org : UUID) (asOfDate : Date) : List TaxBand :=
  match bandsBySequence books org asOfDate with
  | [] => getDefaultBands org asOfDate
  | band :: bands => band :: bands

def TaxBand.taxableInBand (band : TaxBand) (taxableIncome : ℚ) : ℚ :=
  if taxableIncome ≤ band.minAmount then 0
  else
    match band.maxAmount with
    | none => taxableIncome - band.minAmount
    | some maxAmount => max (min taxableIncome maxAmount - band.minAmount) 0

def TaxBand.breakdown? (taxableIncome : ℚ) (band : TaxBand) : Option TaxBandBreakdown :=
  let taxInBand := band.calculateTax taxableIncome
  if 0 < taxInBand ∨ band.minAmount < taxableIncome then
    some {
      bandName := band.name
      minAmount := band.minAmount
      maxAmount := band.maxAmount
      rate := band.rate
      taxableInBand := band.taxableInBand taxableIncome
      taxAmount := taxInBand }
  else none

def PayeInput.profile? (books : PayeBooks) (input : PayeInput) : Option EmployeeTaxProfile :=
  input.employeeId.bind fun employeeId =>
    getTaxProfile books input.organizationId employeeId input.asOfDate

def PayeInput.isExempt (books : PayeBooks) (input : PayeInput) : Bool :=
  (input.profile? books).any EmployeeTaxProfile.isTaxExempt

/-- A twelfth of an annual amount, in cents. -/
def monthly (q : ℚ) : ℚ := Rounding.halfUp 2 (q / monthsPerYear)

def calculate (books : PayeBooks) (input : PayeInput) : PayeBreakdown :=
  let profile := input.profile? books
  let pensionRate := input.pensionRate.getD
    (profile.elim defaultPensionRate EmployeeTaxProfile.pensionRate)
  let employerPensionRate := input.employerPensionRate.getD defaultEmployerPensionRate
  let nhfRate := input.nhfRate.getD (profile.elim defaultNhfRate EmployeeTaxProfile.nhfRate)
  let nhisRate := input.nhisRate.getD (profile.elim defaultNhisRate EmployeeTaxProfile.nhisRate)
  let annualRent := input.annualRent.getD (profile.elim 0 EmployeeTaxProfile.annualRent)
  let rentVerified := input.rentVerified || profile.any EmployeeTaxProfile.rentReceiptVerified
  let isExempt := input.isExempt books
  let annualGross := input.grossMonthly * monthsPerYear
  let annualBasic := input.basicMonthly * monthsPerYear
  let annualTransport := input.transportMonthly.getD 0 * monthsPerYear
  let annualHousing := input.housingMonthly.getD 0 * monthsPerYear
  let annualPensionBase := annualBasic + annualTransport + annualHousing
  let pensionAmount := annualPensionBase * pensionRate
  let employerPensionAmount := annualPensionBase * employerPensionRate
  let nhfAmount := annualBasic * nhfRate
  let nhisAmount := annualBasic * nhisRate
  let totalStatutory := pensionAmount + nhfAmount + nhisAmount
  let rentRelief :=
    if rentVerified = true ∧ 0 < annualRent then min (annualRent * rentReliefRate) rentReliefMax
    else 0
  let taxableIncome := max (annualGross - totalStatutory - rentRelief) 0
  let bands := getTaxBands books input.organizationId input.asOfDate
  let bandBreakdowns :=
    if isExempt then [] else bands.filterMap (TaxBand.breakdown? taxableIncome)
  let annualTax := (bandBreakdowns.map TaxBandBreakdown.taxAmount).sum
  { annualGross
    annualBasic
    annualTransport
    annualHousing
    annualPensionBase
    annualRent
    pensionAmount
    pensionRate
    employerPensionAmount
    employerPensionRate
    nhfAmount
    nhfRate
    nhisAmount
    nhisRate
    totalStatutory
    rentRelief
    rentReliefRate
    taxableIncome
    bandBreakdowns
    annualTax
    monthlyTax := monthly annualTax
    monthlyPension := monthly pensionAmount
    monthlyEmployerPension := monthly employerPensionAmount
    monthlyNhf := monthly nhfAmount
    monthlyNhis := monthly nhisAmount
    effectiveRate :=
      if 0 < annualGross then Rounding.halfUp 4 (annualTax / annualGross) else 0
    employeeId := input.employeeId
    tin := profile.bind EmployeeTaxProfile.tin
    taxState := profile.bind EmployeeTaxProfile.taxState
    isTaxExempt := isExempt }

end DotmacErp.Payroll
