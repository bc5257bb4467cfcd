import DotmacErp.Foundation.Rounding
import DotmacErp.Foundation.Tiers
import DotmacErp.GL.Models
import Mathlib.Data.List.Sort
import Mathlib.Data.Prod.Lex

/-!
# Tax bands

`TaxBand`, the tax of one band on a taxable income, and `TaxBandService`, which validates the bands
of an organization: each on its own (`validateBand`) and the set of those in force on a day
(`validateBandSet`), where neighbours are compared in the order of their sequence numbers.

An accepted set, one with neither errors nor warnings, is a scale: from zero on, each band begins
where the one before ends, and the last has no end (`acceptedBands`).
-/

namespace DotmacErp.Payroll

open Calendar

/-- `TaxBand`. A band that was not stored has no key. -/
structure TaxBand where
  taxBandId : Option UUID
  organizationId : UUID
  name : String
  minAmount : ℚ
  maxAmount : Option ℚ
  rate : ℚ
  effectiveFrom : Date
  effectiveTo : Option Date
  sequence : ℤ
  isActive : Bool

/-- `TaxBand.calculate_tax`: the tax of a band, given the whole taxable income. -/
def TaxBand.calculateTax (band : TaxBand) (taxableIncome : ℚ) : ℚ :=
  if taxableIncome ≤ band.minAmount then 0
  else
    let taxableInBand := match band.maxAmount with
      | none => taxableIncome - band.minAmount
      | some maxAmount => min taxableIncome maxAmount - band.minAmount
    if taxableInBand ≤ 0 then 0 else Rounding.halfUp 2 (taxableInBand * band.rate)

def TaxBand.InForce (band : TaxBand) (org : UUID) (checkDate : Date) : Prop :=
  band.organizationId = org ∧ band.isActive = true ∧ band.effectiveFrom ≤ checkDate ∧
    ∀ d ∈ band.effectiveTo, checkDate ≤ d

instance (band : TaxBand) (org : UUID) (checkDate : Date) :
    Decidable (band.InForce org checkDate) :=
  inferInstanceAs (Decidable (_ ∧ _ ∧ _ ∧ _))

/-! ### Texts -/

/-- Digits, the last first, with a comma after every three. -/
def groupThousands : List Char → List Char
  | a :: b :: c :: d :: rest => a :: b :: c :: ',' :: groupThousands (d :: rest)
  | digits => digits

/-- An amount in whole units with commas, as the format `,.0f` writes it. -/
def wholeText (q : ℚ) : String :=
  let digits := (toString (Rounding.halfEven |q|).natAbs).toList
  (if q < 0 then "-" else "") ++ String.ofList (groupThousands digits.reverse).reverse

/-- An amount with one decimal, as the format `.1f` writes it. -/
def tenthText (q : ℚ) : String :=
  let tenths := (Rounding.halfEven (|q| * 10)).natAbs
  (if q < 0 then "-" else "") ++ toString (tenths / 10) ++ "." ++ toString (tenths % 10)

/-! ### Validation -/

/-- The kinds of `TaxBandValidationError`. -/
inductive BandErrorType where
  | negativeMin
  | invalidRange
  | negativeRate
  | excessiveRate
  | invalidRate
  | noBands
  | unboundedNotLast
  | overlap
  deriving DecidableEq

structure TaxBandValidationError where
  bandId : Option UUID
  bandName : String
  errorType : BandErrorType
  message : String

structure TaxBandValidationResult where
  errors : List TaxBandValidationError
  warnings : List String

def TaxBandValidationResult.isValid (result : TaxBandValidationResult) : Bool :=
  result.errors.isEmpty

def maxRate : ℚ := 1

def TaxBand.error (band : TaxBand) (errorType : BandErrorType) (message : String) :
    TaxBandValidationError :=
  { bandId := band.taxBandId, bandName := band.name, errorType, message }

def validateBand (band : TaxBand) : List TaxBandValidationError :=
  (if band.minAmount < 0 then
    [band.error .negativeMin ("Band '" ++ band.name ++ "': minimum amount cannot be negative")]
  else []) ++
  (match band.maxAmount with
    | none => []
    | some maxAmount =>
      if maxAmount ≤ band.minAmount then
        [band.error .invalidRange ("Band '" ++ band.name ++ "': maximum (" ++ wholeText maxAmount ++
          ") must be greater than minimum (" ++ wholeText band.minAmount ++ ")")]
      else []) ++
  (if band.rate < 0 then
    [band.error .negativeRate ("Band '" ++ band.name ++ "': tax rate cannot be negative")]
  else if maxRate < band.rate then
    [band.error .excessiveRate ("Band '" ++ band.name ++ "': tax rate (" ++
      tenthText (band.rate * 100) ++ "%) exceeds 100%")]
  else [])

def neighbourErrors (current next : TaxBand) : List TaxBandValidationError :=
  match current.maxAmount with
  | none =>
    [current.error .unboundedNotLast
      ("Band '" ++ current.name ++ "' has no maximum but is not the last band")]
  | some maxAmount =>
    if next.minAmount < maxAmount then
      [current.error .overlap ("Bands overlap: '" ++ current.name ++ "' ends at " ++
        wholeText maxAmount ++ " but '" ++ next.name ++ "' starts at " ++
        wholeText next.minAmount)]
    else []

def neighbourWarnings (current next : TaxBand) : List String :=
  match current.maxAmount with
  | none => []
  | some maxAmount =>
    if maxAmount < next.minAmount then
      ["Gap in tax bands: " ++ wholeText maxAmount ++ " to " ++ wholeText next.minAmount ++
        " (between '" ++ current.name ++ "' and '" ++ next.name ++ "')"]
    else []

def firstWarnings (first : TaxBand) : List String :=
  if first.minAmount ≠ 0 then
    ["First tax band starts at " ++ wholeText first.minAmount ++
      ", not 0. Income below this amount will be taxed at 0%."]
  else []

def lastWarnings (last : TaxBand) : List String :=
  match last.maxAmount with
  | none => []
  | some maxAmount =>
    ["Last tax band has a maximum of " ++ wholeText maxAmount ++
      ". Income above this may not be taxed correctly."]

/-- `get_active_bands`: the bands in force, by sequence number and then by their minimum. -/
def getActiveBands (taxBands : List TaxBand) (org : UUID) (checkDate : Date) :
    List TaxBand :=
  (taxBands.filter fun band => decide (band.InForce org checkDate)).insertionSort
    fun a b => toLex (a.sequence, a.minAmount) ≤ toLex (b.sequence, b.minAmount)

/-- `validate_band_set` of the bands in force. -/
def validateBands (bands : List TaxBand) : TaxBandValidationResult :=
  match bands with
  | [] =>
    { errors := [{
        bandId := none
        bandName := "(none)"
        errorType := .noBands
        message := "No active tax bands configured" }]
      warnings := [] }
  | first :: rest =>
    let neighbours := (first :: rest).zip rest
    { errors := (first :: rest).flatMap validateBand ++
        neighbours.flatMap fun pair => neighbourErrors pair.1 pair.2
      warnings := firstWarnings first ++ lastWarnings (rest.getLastD first) ++
        (neighbours.flatMap fun pair => neighbourWarnings pair.1 pair.2) ++
        if ((first :: rest).map TaxBand.sequence).Nodup then []
        else ["Some tax bands have duplicate sequence numbers"] }

def validateBandSet (taxBands : List TaxBand) (org : UUID) (asOfDate : Date) :
    TaxBandValidationResult :=
  validateBands (getActiveBands taxBands org asOfDate)

/-! ### Accepted sets -/

variable {band current next : TaxBand} {bands : List TaxBand}

def TaxBand.tier (band : TaxBand) : Tier ℚ := ⟨band.minAmount, band.maxAmount⟩

def TaxBand.portion (band : TaxBand) (taxableIncome : ℚ) : ℚ := band.tier.portion taxableIncome

theorem validateBand_eq_nil (h : validateBand band = []) :
    0 ≤ band.minAmount ∧ (∀ m ∈ band.maxAmount, band.minAmount < m) ∧ 0 ≤ band.rate ∧
      band.rate ≤ 1 := by
  obtain ⟨hfront, hrate⟩ := List.append_eq_nil_iff.mp h
  obtain ⟨hmin, hmax⟩ := List.append_eq_nil_iff.mp hfront
  have hnonneg : 0 ≤ band.minAmount := by
    by_contra hneg
    rw [if_pos (not_le.mp hneg)] at hmin
    exact List.cons_ne_nil _ _ hmin
  have hrange : ∀ m ∈ band.maxAmount, band.minAmount < m := by
    intro m hm
    by_contra hle
    rw [Option.mem_def.mp hm] at hmax
    dsimp only at hmax
    rw [if_pos (not_lt.mp hle)] at hmax
    exact List.cons_ne_nil _ _ hmax
  by_cases hneg : band.rate < 0
  · rw [if_pos hneg] at hrate
    exact absurd hrate (List.cons_ne_nil _ _)
  by_cases hexcess : maxRate < band.rate
  · rw [if_neg hneg, if_pos hexcess] at hrate
    exact absurd hrate (List.cons_ne_nil _ _)
  · exact ⟨hnonneg, hrange, not_lt.mp hneg, not_lt.mp hexcess⟩

theorem maxAmount_eq_of_neighbour (herrors : neighbourErrors current next = [])
    (hwarnings : neighbourWarnings current next = []) :
    current.maxAmount = some next.minAmount := by
  rw [neighbourErrors] at herrors
  rw [neighbourWarnings] at hwarnings
  cases hmax : current.maxAmount with
  | none =>
    rw [hmax] at herrors
    exact absurd herrors (List.cons_ne_nil _ _)
  | some m =>
    rw [hmax] at herrors hwarnings
    dsimp only at herrors hwarnings
    have hno_overlap : ¬ next.minAmount < m := by
      intro hlt
      rw [if_pos hlt] at herrors
      exact List.cons_ne_nil _ _ herrors
    have hno_gap : ¬ m < next.minAmount := by
      intro hlt
      rw [if_pos hlt] at hwarnings
      exact List.cons_ne_nil _ _ hwarnings
    rw [le_antisymm (not_lt.mp hno_overlap) (not_lt.mp hno_gap)]

/-- Neither an error nor a warning. -/
def TaxBandValidationResult.Accepts (result : TaxBandValidationResult) : Prop :=
  result.errors = [] ∧ result.warnings = []

instance (result : TaxBandValidationResult) : Decidable result.Accepts :=
  inferInstanceAs (Decidable (_ ∧ _))

theorem isChain_of_zip {α : Type*} {R : α → α → Prop} {a : α} {l : List α}
    (h : ∀ p ∈ (a :: l).zip l, R p.1 p.2) : (a :: l).IsChain R := by
  induction l generalizing a with
  | nil => exact List.isChain_singleton a
  | cons b l ih =>
    refine List.isChain_cons_cons.mpr ⟨h (a, b) List.mem_cons_self, ih fun p hp => ?_⟩
    exact h p (List.mem_cons_of_mem _ hp)

structure AcceptedBands (bands : List TaxBand) : Prop where
  consecutive : Tier.Consecutive 0 (bands.map TaxBand.tier)
  rate_nonneg : ∀ band ∈ bands, 0 ≤ band.rate
  rate_le : ∀ band ∈ bands, band.rate ≤ 1
  nodup : (bands.map TaxBand.sequence).Nodup

/-- **Accepted bands are a scale**: from zero on, each begins where the one before ends, and the
last has no end. -/
theorem acceptedBands (h : (validateBands bands).Accepts) : AcceptedBands bands := by
  cases bands with
  | nil => exact absurd h.1 (List.cons_ne_nil _ _)
  | cons first rest =>
    obtain ⟨herrors, hwarnings⟩ := h
    obtain ⟨heach, hpairs⟩ := List.append_eq_nil_iff.mp herrors
    obtain ⟨hfront, hsequences⟩ := List.append_eq_nil_iff.mp hwarnings
    obtain ⟨hends, hgaps⟩ := List.append_eq_nil_iff.mp hfront
    obtain ⟨hfirst, hlast⟩ := List.append_eq_nil_iff.mp hends
    have hband : ∀ band ∈ first :: rest, validateBand band = [] := List.flatMap_eq_nil_iff.mp heach
    have hzero : first.minAmount = 0 := by
      by_contra hne
      rw [firstWarnings, if_pos hne] at hfirst
      exact List.cons_ne_nil _ _ hfirst
    have hopen : (rest.getLastD first).maxAmount = none := by
      rw [lastWarnings] at hlast
      cases hmax : (rest.getLastD first).maxAmount with
      | none => rfl
      | some m =>
        rw [hmax] at hlast
        exact absurd hlast (List.cons_ne_nil _ _)
    refine ⟨?_, fun band hb => (validateBand_eq_nil (hband band hb)).2.2.1,
      fun band hb => (validateBand_eq_nil (hband band hb)).2.2.2, ?_⟩
    · have hconsecutive : Tier.Consecutive first.tier.lower
          (first.tier :: rest.map TaxBand.tier) := by
        refine .of_isChain ?_ ?_ ?_
        · intro c hc u hu
          rw [← List.map_cons] at hc
          obtain ⟨band, hb, rfl⟩ := List.mem_map.mp hc
          exact (validateBand_eq_nil (hband band hb)).2.1 u hu
        · rw [← List.map_cons, List.isChain_map]
          refine isChain_of_zip fun p hp => ?_
          exact maxAmount_eq_of_neighbour (List.flatMap_eq_nil_iff.mp hpairs p hp)
            (List.flatMap_eq_nil_iff.mp hgaps p hp)
        · rw [List.getLast_eq_getLastD, List.getLastD_map]
          exact hopen
      have hlower : first.tier.lower = 0 := hzero
      rwa [hlower] at hconsecutive
    · by_contra hdup
      rw [if_neg hdup] at hsequences
      exact List.cons_ne_nil _ _ hsequences

end DotmacErp.Payroll
