import DotmacErp.Foundation.RoundedSums
import DotmacErp.Foundation.Scripts
import DotmacErp.Foundation.Selections
import DotmacErp.Foundation.Session
import DotmacErp.GL.Models
import Mathlib.Tactic.Linarith

/-!
# Deferred tax and its movements

A deferred tax basis holds an amount without a sign, and whether it is an asset. A movement opens at
the amounts of the basis and closes at those of its new bases and rate, of which only a part may be
recognized; its three parts come to the closing amount less the opening one.

That is the change of the position — a liability counted positively, an asset negatively — as long
as nothing of an asset changes. An asset that grows moves the other way, and one that turns into a
liability moves by less than its position. So the movements follow the position exactly when every
call leaves the asset at what it was, and the three parts are no finer together than their columns
(`movements_follow_iff`).

Deferred tax is in cents, and a basis keeps its probability at four decimals, its bases and rate at
six (`amountColumn`, `probabilityColumn`).
-/

namespace DotmacErp.DeferredTax

open Relational Session Table Rounding

/-! ### Rows -/

structure DeferredTaxBasis where
  organizationId : UUID
  jurisdictionId : UUID
  basisCode : String
  accountingBase : ℚ
  taxBase : ℚ
  temporaryDifference : ℚ
  applicableTaxRate : ℚ
  deferredTaxAmount : ℚ
  isAsset : Bool
  isRecognized : Bool
  recognitionProbability : Option ℚ
  unrecognizedAmount : ℚ
  isActive : Bool := true
  deriving DecidableEq

structure DeferredTaxMovement where
  basisId : UUID
  fiscalPeriodId : UUID
  accountingBaseOpening : ℚ
  taxBaseOpening : ℚ
  temporaryDifferenceOpening : ℚ
  deferredTaxOpening : ℚ
  accountingBaseMovement : ℚ
  taxBaseMovement : ℚ
  temporaryDifferenceMovement : ℚ
  taxRateOpening : ℚ
  taxRateClosing : ℚ
  taxRateChangeImpact : ℚ
  deferredTaxMovementPl : ℚ
  deferredTaxMovementOci : ℚ
  deferredTaxMovementEquity : ℚ
  accountingBaseClosing : ℚ
  taxBaseClosing : ℚ
  temporaryDifferenceClosing : ℚ
  deferredTaxClosing : ℚ
  recognitionChange : ℚ
  unrecognizedClosing : ℚ

/-- Bases, and their movements in the order of their creation. -/
structure TaxStore where
  bases : Table DeferredTaxBasis
  movements : List DeferredTaxMovement

structure HTTPException where
  statusCode : ℕ
  detail : String

abbrev TaxSession (α : Type) := Session HTTPException TaxStore α

/-! ### The service -/

/-- A `Numeric(20, 6)` column, and the `Numeric(10, 6)` of a rate. -/
def amountColumn (q : ℚ) : ℚ := halfUp 6 q

/-- A `Numeric(5, 4)` column. -/
def probabilityColumn (p : ℚ) : ℚ := halfUp 4 p

def calculateTemporaryDifference (accountingBase taxBase : ℚ) : ℚ := accountingBase - taxBase

/-- `calculate_deferred_tax`: the amount, and whether it is an asset. -/
def calculateDeferredTax (temporaryDifference taxRate : ℚ) : ℚ × Bool :=
  (halfUp 2 (|temporaryDifference| * taxRate), decide (temporaryDifference < 0))

def partOf (deferredTax probability : ℚ) : ℚ × ℚ :=
  let recognized := halfUp 2 (deferredTax * probability)
  (recognized, deferredTax - recognized)

/-- The probability of a basis that is recognized in part. -/
def partialProbability (recognitionProbability : Option ℚ) : Option ℚ :=
  recognitionProbability.filter fun p => decide (p ≠ 0 ∧ p < 1)

def recognizedAtFirst (isRecognized : Bool) (recognitionProbability : Option ℚ)
    (deferredTax : ℚ) : ℚ × ℚ :=
  match partialProbability recognitionProbability with
  | some p => partOf deferredTax p
  | none => if isRecognized then (deferredTax, 0) else (0, deferredTax)

def recognizedAtClose (isRecognized : Bool) (recognitionProbability : Option ℚ)
    (deferredTax : ℚ) : ℚ × ℚ :=
  if isRecognized then
    match partialProbability recognitionProbability with
    | some p => partOf deferredTax p
    | none => (deferredTax, 0)
  else (0, deferredTax)

structure DeferredTaxBasisInput where
  basisCode : String
  jurisdictionId : UUID
  applicableTaxRate : ℚ
  accountingBase : ℚ := 0
  taxBase : ℚ := 0
  isRecognized : Bool := true
  recognitionProbability : Option ℚ := none

def newBasis (org : UUID) (input : DeferredTaxBasisInput) : DeferredTaxBasis :=
  let difference := calculateTemporaryDifference input.accountingBase input.taxBase
  let deferredTax := calculateDeferredTax difference input.applicableTaxRate
  let parts := recognizedAtFirst input.isRecognized input.recognitionProbability deferredTax.1
  { organizationId := org
    jurisdictionId := input.jurisdictionId
    basisCode := input.basisCode
    accountingBase := amountColumn input.accountingBase
    taxBase := amountColumn input.taxBase
    temporaryDifference := amountColumn difference
    applicableTaxRate := amountColumn input.applicableTaxRate
    deferredTaxAmount := amountColumn parts.1
    isAsset := deferredTax.2
    isRecognized := input.isRecognized
    recognitionProbability := input.recognitionProbability.map probabilityColumn
    unrecognizedAmount := amountColumn parts.2 }

def createBasis (org : UUID) (input : DeferredTaxBasisInput) : TaxSession PUnit := do
  let s ← get
  refuse (∃ r ∈ s.bases.rows, r.row.organizationId = org ∧
      r.row.basisCode = input.basisCode)
    ⟨400, "Basis code '" ++ input.basisCode ++ "' already exists"⟩
  set { s with bases := s.bases.insert (newBasis org input) }

structure MovementInput where
  fiscalPeriodId : UUID
  accountingBaseClosing : ℚ
  taxBaseClosing : ℚ
  taxRateClosing : ℚ
  deferredTaxMovementOci : ℚ := 0
  deferredTaxMovementEquity : ℚ := 0

def MovementInput.gross (input : MovementInput) : ℚ × Bool :=
  calculateDeferredTax
    (calculateTemporaryDifference input.accountingBaseClosing input.taxBaseClosing)
    input.taxRateClosing

/-- What is recognized at the close, and what is not. -/
def DeferredTaxBasis.parts (input : MovementInput) (basis : DeferredTaxBasis) : ℚ × ℚ :=
  recognizedAtClose basis.isRecognized basis.recognitionProbability input.gross.1

def DeferredTaxBasis.closed (input : MovementInput) (basis : DeferredTaxBasis) :
    DeferredTaxBasis :=
  { basis with
    accountingBase := amountColumn input.accountingBaseClosing
    taxBase := amountColumn input.taxBaseClosing
    temporaryDifference := amountColumn
      (calculateTemporaryDifference input.accountingBaseClosing input.taxBaseClosing)
    applicableTaxRate := amountColumn input.taxRateClosing
    deferredTaxAmount := amountColumn (basis.parts input).1
    isAsset := input.gross.2
    unrecognizedAmount := amountColumn (basis.parts input).2 }

def rateChangeImpact (basis : DeferredTaxBasis) (taxRateClosing : ℚ) : ℚ :=
  if taxRateClosing ≠ basis.applicableTaxRate then
    let impact := halfUp 2
      (|basis.temporaryDifference| * (taxRateClosing - basis.applicableTaxRate))
    if basis.temporaryDifference < 0 then -impact else impact
  else 0

def movementTo (basisId : UUID) (input : MovementInput) (basis : DeferredTaxBasis) :
    DeferredTaxMovement :=
  let difference :=
    calculateTemporaryDifference input.accountingBaseClosing input.taxBaseClosing
  let closing := (basis.parts input).1
  { basisId
    fiscalPeriodId := input.fiscalPeriodId
    accountingBaseOpening := amountColumn basis.accountingBase
    taxBaseOpening := amountColumn basis.taxBase
    temporaryDifferenceOpening := amountColumn basis.temporaryDifference
    deferredTaxOpening := amountColumn basis.deferredTaxAmount
    accountingBaseMovement := amountColumn (input.accountingBaseClosing - basis.accountingBase)
    taxBaseMovement := amountColumn (input.taxBaseClosing - basis.taxBase)
    temporaryDifferenceMovement := amountColumn (difference - basis.temporaryDifference)
    taxRateOpening := amountColumn basis.applicableTaxRate
    taxRateClosing := amountColumn input.taxRateClosing
    taxRateChangeImpact := amountColumn (rateChangeImpact basis input.taxRateClosing)
    deferredTaxMovementPl := amountColumn (closing - basis.deferredTaxAmount -
      input.deferredTaxMovementOci - input.deferredTaxMovementEquity)
    deferredTaxMovementOci := amountColumn input.deferredTaxMovementOci
    deferredTaxMovementEquity := amountColumn input.deferredTaxMovementEquity
    accountingBaseClosing := amountColumn input.accountingBaseClosing
    taxBaseClosing := amountColumn input.taxBaseClosing
    temporaryDifferenceClosing := amountColumn difference
    deferredTaxClosing := amountColumn closing
    recognitionChange := amountColumn (input.gross.1 - closing - basis.unrecognizedAmount)
    unrecognizedClosing := amountColumn (basis.parts input).2 }

def createMovement (org basisId : UUID) (input : MovementInput) :
    TaxSession PUnit := do
  let s ← get
  let basis ← orRaise ((s.bases.get? basisId).filter fun basis =>
      decide (basis.organizationId = org)) ⟨404, "Deferred tax basis not found"⟩
  set { s with
    bases := s.bases.modify basisId (DeferredTaxBasis.closed input)
    movements := s.movements ++ [movementTo basisId input basis] }

structure DeferredTaxSummary where
  totalDta : ℚ
  totalDtl : ℚ
  netPosition : ℚ
  unrecognizedDta : ℚ
  itemsCount : ℕ

def activeBases (s : TaxStore) (org : UUID) (jurisdictionId : Option UUID) :
    List DeferredTaxBasis :=
  (s.bases.select fun b => decide (b.organizationId = org ∧ b.isActive = true ∧
    ∀ j ∈ jurisdictionId, b.jurisdictionId = j)).map Stored.row

def getSummary (s : TaxStore) (org : UUID) (jurisdictionId : Option UUID) :
    DeferredTaxSummary :=
  let bases := activeBases s org jurisdictionId
  let totalDta := ((bases.filter fun b => b.isAsset).map DeferredTaxBasis.deferredTaxAmount).sum
  let totalDtl := ((bases.filter fun b => !b.isAsset).map DeferredTaxBasis.deferredTaxAmount).sum
  { totalDta
    totalDtl
    netPosition := totalDta - totalDtl
    unrecognizedDta := (bases.map DeferredTaxBasis.unrecognizedAmount).sum
    itemsCount := bases.length }

/-! ### Positions and movements -/

variable {s s' : TaxStore} {k : UUID} {b b' : DeferredTaxBasis}

def DeferredTaxBasis.position (b : DeferredTaxBasis) : ℚ :=
  if b.isAsset then -b.deferredTaxAmount else b.deferredTaxAmount

def DeferredTaxBasis.asset (b : DeferredTaxBasis) : ℚ :=
  if b.isAsset then b.deferredTaxAmount else 0

def DeferredTaxMovement.total (m : DeferredTaxMovement) : ℚ :=
  m.deferredTaxMovementPl + m.deferredTaxMovementOci + m.deferredTaxMovementEquity

def movementsOf (s : TaxStore) (k : UUID) : List DeferredTaxMovement :=
  s.movements.filter fun m => decide (m.basisId = k)

/-- The movements that were added come to what the positions changed by. -/
def Follows (s s' : TaxStore) : Prop := ∀ k b b', s.bases.get? k = some b →
  s'.bases.get? k = some b' →
    ((movementsOf s' k).map DeferredTaxMovement.total).sum -
      ((movementsOf s k).map DeferredTaxMovement.total).sum = b'.position - b.position

def OpensAt (m next : DeferredTaxMovement) : Prop :=
  next.accountingBaseOpening = m.accountingBaseClosing ∧
    next.taxBaseOpening = m.taxBaseClosing ∧
    next.temporaryDifferenceOpening = m.temporaryDifferenceClosing ∧
    next.taxRateOpening = m.taxRateClosing ∧ next.deferredTaxOpening = m.deferredTaxClosing

def ClosedAt (m : DeferredTaxMovement) (b : DeferredTaxBasis) : Prop :=
  b.accountingBase = m.accountingBaseClosing ∧ b.taxBase = m.taxBaseClosing ∧
    b.temporaryDifference = m.temporaryDifferenceClosing ∧
    b.applicableTaxRate = m.taxRateClosing ∧ b.deferredTaxAmount = m.deferredTaxClosing

/-- **Stored amounts** are those of the columns, and deferred tax is in cents. -/
structure DeferredTaxBasis.IsStored (b : DeferredTaxBasis) : Prop where
  accountingBase : AtScale 6 b.accountingBase
  taxBase : AtScale 6 b.taxBase
  temporaryDifference : AtScale 6 b.temporaryDifference
  applicableTaxRate : AtScale 6 b.applicableTaxRate
  deferredTaxAmount : AtScale 2 b.deferredTaxAmount

/-- **A chain**: every movement of a basis opens where the last one closed, and the basis is where
its last movement closed. -/
structure Chained (s : TaxStore) : Prop where
  known : ∀ m ∈ s.movements, m.basisId < s.bases.next
  chain : ∀ k, (movementsOf s k).IsChain OpensAt
  closed : ∀ k b, s.bases.get? k = some b → ∀ m ∈ (movementsOf s k).getLast?, ClosedAt m b
  stored : ∀ k b, s.bases.get? k = some b → b.IsStored

/-! ### What a movement adds up to -/

/-- The tax on the closing difference. -/
def MovementInput.taxOn (input : MovementInput) : ℚ :=
  |input.accountingBaseClosing - input.taxBaseClosing| * input.taxRateClosing

/-- The part of its tax that a basis recognizes: nothing, its probability, or all. -/
def DeferredTaxBasis.share (b : DeferredTaxBasis) : ℚ :=
  if b.isRecognized then (partialProbability b.recognitionProbability).getD 1 else 0

/-- **The asset is kept**: it is nothing before, if the closing difference is not negative;
otherwise the recognized share of the tax on that difference, in cents, is to the cent what it is
before. -/
def DeferredTaxBasis.KeepsAsset (b : DeferredTaxBasis) (input : MovementInput) : Prop :=
  if input.accountingBaseClosing < input.taxBaseClosing then
    Vanishes 2 (halfUp 2 input.taxOn * b.share) (halfUp 2 input.taxOn * b.share - b.asset)
  else b.asset = 0

/-- **The parts add up**: what the columns take from the parts to OCI and to equity is nothing to
the part to profit or loss. -/
def DeferredTaxBasis.PartsAddUp (b : DeferredTaxBasis) (input : MovementInput) : Prop :=
  Vanishes 6 (halfUp 2 (halfUp 2 input.taxOn * b.share) - b.deferredTaxAmount -
      input.deferredTaxMovementOci - input.deferredTaxMovementEquity)
    (-residue 6 [input.deferredTaxMovementOci, input.deferredTaxMovementEquity])

instance (b : DeferredTaxBasis) (input : MovementInput) : Decidable (b.KeepsAsset input) := by
  unfold DeferredTaxBasis.KeepsAsset
  infer_instance

instance (b : DeferredTaxBasis) (input : MovementInput) : Decidable (b.PartsAddUp input) :=
  inferInstanceAs (Decidable (Vanishes _ _ _))

theorem amountColumn_of_cents {q : ℚ} (h : AtScale 2 q) : amountColumn q = q :=
  halfUp_of_atScale (h.of_le (by norm_num))

theorem parts_recognizedAtFirst (isRecognized : Bool) (p : Option ℚ) {deferredTax : ℚ}
    (h : AtScale 2 deferredTax) :
    AtScale 2 (recognizedAtFirst isRecognized p deferredTax).1 ∧
      (recognizedAtFirst isRecognized p deferredTax).2 =
        deferredTax - (recognizedAtFirst isRecognized p deferredTax).1 := by
  rw [recognizedAtFirst]
  split
  · exact ⟨atScale_halfUp 2 _, rfl⟩
  · split_ifs
    · exact ⟨h, (sub_self _).symm⟩
    · exact ⟨atScale_zero 2, (sub_zero _).symm⟩

/-- What is recognized at the close is the share of the tax in cents. -/
theorem parts_eq (b : DeferredTaxBasis) (input : MovementInput) :
    (b.parts input).1 = halfUp 2 (halfUp 2 input.taxOn * b.share) ∧
      (b.parts input).2 = halfUp 2 input.taxOn - (b.parts input).1 := by
  have hgross : input.gross.1 = halfUp 2 input.taxOn := rfl
  rw [DeferredTaxBasis.parts, recognizedAtClose, DeferredTaxBasis.share, hgross]
  split_ifs
  · split
    · next p hp => exact ⟨by rw [hp]; rfl, rfl⟩
    · next hnone => exact ⟨by rw [hnone, Option.getD_none, mul_one, halfUp_halfUp], by simp⟩
  · exact ⟨by rw [mul_zero, halfUp_zero], by simp⟩

theorem closed_eq (b : DeferredTaxBasis) (input : MovementInput) :
    (b.closed input).deferredTaxAmount = halfUp 2 (halfUp 2 input.taxOn * b.share) ∧
      (b.closed input).unrecognizedAmount =
        halfUp 2 input.taxOn - (b.closed input).deferredTaxAmount := by
  obtain ⟨hrecognized, hrest⟩ := parts_eq b input
  have hcents := atScale_halfUp 2 (halfUp 2 input.taxOn * b.share)
  have hamount : (b.closed input).deferredTaxAmount = (b.parts input).1 := by
    rw [DeferredTaxBasis.closed, hrecognized]
    exact amountColumn_of_cents hcents
  refine ⟨hamount.trans hrecognized, ?_⟩
  rw [hamount, ← hrest]
  refine amountColumn_of_cents ?_
  rw [hrest, hrecognized]
  exact (atScale_halfUp 2 _).sub hcents

theorem newBasis_isStored (org : UUID) (input : DeferredTaxBasisInput) :
    (newBasis org input).IsStored where
  accountingBase := atScale_halfUp 6 _
  taxBase := atScale_halfUp 6 _
  temporaryDifference := atScale_halfUp 6 _
  applicableTaxRate := atScale_halfUp 6 _
  deferredTaxAmount := by
    have hcents := (parts_recognizedAtFirst input.isRecognized input.recognitionProbability
      (atScale_halfUp 2 (|calculateTemporaryDifference input.accountingBase input.taxBase| *
        input.applicableTaxRate))).1
    rw [newBasis, calculateDeferredTax, amountColumn_of_cents hcents]
    exact hcents

theorem closed_isStored (b : DeferredTaxBasis) (input : MovementInput) :
    (b.closed input).IsStored where
  accountingBase := atScale_halfUp 6 _
  taxBase := atScale_halfUp 6 _
  temporaryDifference := atScale_halfUp 6 _
  applicableTaxRate := atScale_halfUp 6 _
  deferredTaxAmount := by
    rw [(closed_eq b input).1]
    exact atScale_halfUp 2 _

/-- The asset of a basis in cents is kept exactly when it closes at the same asset. -/
theorem keepsAsset_iff {input : MovementInput} (hcents : AtScale 2 b.deferredTaxAmount) :
    b.KeepsAsset input ↔ (b.closed input).asset = b.asset := by
  have hasset : AtScale 2 b.asset := by
    rw [DeferredTaxBasis.asset]
    split_ifs
    · exact hcents
    · exact atScale_zero 2
  have hclosed : (b.closed input).isAsset =
      decide (input.accountingBaseClosing < input.taxBaseClosing) := by
    simp [DeferredTaxBasis.closed, MovementInput.gross, calculateDeferredTax,
      calculateTemporaryDifference]
  have hafter : (b.closed input).asset = if (b.closed input).isAsset then
      (b.closed input).deferredTaxAmount else 0 := rfl
  rw [DeferredTaxBasis.KeepsAsset, hafter, hclosed, (closed_eq b input).1]
  by_cases hneg : input.accountingBaseClosing < input.taxBaseClosing
  · rw [if_pos hneg, if_pos (decide_eq_true hneg), halfUp_eq_iff hasset]
  · rw [if_neg hneg, if_neg (by simpa using hneg), eq_comm]

theorem total_movementTo_iff {input : MovementInput} (hcents : AtScale 2 b.deferredTaxAmount) :
    (movementTo k input b).total = (b.closed input).deferredTaxAmount - b.deferredTaxAmount ↔
      b.PartsAddUp input := by
  set change := halfUp 2 (halfUp 2 input.taxOn * b.share) - b.deferredTaxAmount with hchange
  have hscale : AtScale 6 (change - amountColumn input.deferredTaxMovementOci -
      amountColumn input.deferredTaxMovementEquity) :=
    ((((atScale_halfUp 2 _).sub hcents).of_le (by norm_num)).sub (atScale_halfUp 6 _)).sub
      (atScale_halfUp 6 _)
  have hresidue : change - input.deferredTaxMovementOci - input.deferredTaxMovementEquity -
      (change - amountColumn input.deferredTaxMovementOci -
        amountColumn input.deferredTaxMovementEquity) =
      -residue 6 [input.deferredTaxMovementOci, input.deferredTaxMovementEquity] := by
    simp only [residue, amountColumn, List.map_cons, List.map_nil, List.sum_cons, List.sum_nil]
    ring
  have htotal : (movementTo k input b).total =
      amountColumn (change - input.deferredTaxMovementOci - input.deferredTaxMovementEquity) +
        amountColumn input.deferredTaxMovementOci +
        amountColumn input.deferredTaxMovementEquity := by
    rw [DeferredTaxMovement.total, movementTo, hchange, (parts_eq b input).1]
  have hround := halfUp_eq_iff hscale
    (q := change - input.deferredTaxMovementOci - input.deferredTaxMovementEquity)
  rw [hresidue] at hround
  rw [DeferredTaxBasis.PartsAddUp, ← hchange, ← hround, htotal, (closed_eq b input).1, ← hchange]
  rw [amountColumn]
  constructor <;> intro h <;> linarith

/-- What the columns take is less than a cent. -/
theorem abs_total_sub_lt (input : MovementInput) (b : DeferredTaxBasis) :
    |(movementTo k input b).total -
      ((b.closed input).deferredTaxAmount - b.deferredTaxAmount)| < 1 / 100 := by
  have hpl := abs_le.mp (abs_halfUp_sub_le 6 ((b.parts input).1 - b.deferredTaxAmount -
    input.deferredTaxMovementOci - input.deferredTaxMovementEquity))
  have hoci := abs_le.mp (abs_halfUp_sub_le 6 input.deferredTaxMovementOci)
  have hequity := abs_le.mp (abs_halfUp_sub_le 6 input.deferredTaxMovementEquity)
  rw [(closed_eq b input).1, ← (parts_eq b input).1]
  simp only [DeferredTaxMovement.total, movementTo, amountColumn]
  rw [abs_lt]
  norm_num at hpl hoci hequity
  constructor <;> linarith

theorem cents_eq_of_abs_sub_lt {q r : ℚ} (hq : AtScale 2 q) (hr : AtScale 2 r)
    (h : |q - r| < 1 / 100) : q = r := by
  obtain ⟨z, hz⟩ := hq.sub hr
  rw [hz, abs_div, abs_of_pos (by norm_num : (0 : ℚ) < 10 ^ 2), div_lt_div_iff₀ (by norm_num)
    (by norm_num)] at h
  have hzero : z = 0 := by
    have hint : |(z : ℚ)| < 1 := by linarith
    exact Int.abs_lt_one_iff.mp (by exact_mod_cast hint)
  rw [hzero, Int.cast_zero, zero_div] at hz
  linarith

/-- **One movement** comes to the change of the position exactly when the asset is kept and the
parts add up: a change of the asset is at least a cent, and the columns take less. -/
theorem follows_iff {input : MovementInput} (hcents : AtScale 2 b.deferredTaxAmount) :
    (movementTo k input b).total = (b.closed input).position - b.position ↔
      b.KeepsAsset input ∧ b.PartsAddUp input := by
  have hposition : ∀ b : DeferredTaxBasis, b.position = b.deferredTaxAmount - 2 * b.asset := by
    intro b
    rw [DeferredTaxBasis.position, DeferredTaxBasis.asset]
    split_ifs <;> ring
  have hassets : ∀ b : DeferredTaxBasis, AtScale 2 b.deferredTaxAmount → AtScale 2 b.asset := by
    intro b hb
    rw [DeferredTaxBasis.asset]
    split_ifs
    · exact hb
    · exact atScale_zero 2
  have hclosed : AtScale 2 (b.closed input).deferredTaxAmount := by
    rw [(closed_eq b input).1]
    exact atScale_halfUp 2 _
  rw [keepsAsset_iff hcents, ← total_movementTo_iff (k := k) hcents, hposition, hposition]
  constructor
  · intro h
    have hnear := abs_total_sub_lt (k := k) input b
    have hasset : (b.closed input).asset = b.asset := by
      refine cents_eq_of_abs_sub_lt (hassets _ hclosed) (hassets _ hcents) ?_
      rw [h] at hnear
      rw [abs_lt] at hnear ⊢
      constructor <;> linarith
    refine ⟨hasset, ?_⟩
    rw [h, hasset]
    ring
  · rintro ⟨hasset, htotal⟩
    rw [htotal, hasset]
    ring

/-- **The net position** is that of the bases, with the opposite sign. -/
theorem netPosition_eq (org : UUID) (jurisdictionId : Option UUID) :
    (getSummary s org jurisdictionId).netPosition =
      -((activeBases s org jurisdictionId).map DeferredTaxBasis.position).sum := by
  simp only [getSummary]
  induction activeBases s org jurisdictionId with
  | nil => simp
  | cons b rest ih =>
    cases hasset : b.isAsset <;>
      simp only [hasset, List.filter_cons, List.map_cons, List.sum_cons, DeferredTaxBasis.position,
        if_true, if_false, Bool.not_true, Bool.not_false, Bool.false_eq_true] at ih ⊢ <;>
      linarith

/-! ### Runs -/

/-- A basis is created, or a movement. -/
inductive TaxCall where
  | basis (org : UUID) (input : DeferredTaxBasisInput)
  | movement (org basisId : UUID) (input : MovementInput)

namespace TaxCall

def run : TaxCall → TaxSession PUnit
  | basis org input => createBasis org input
  | movement org basisId input => createMovement org basisId input

def after (s : TaxStore) (call : TaxCall) : TaxStore := commit call.run s

/-- A call after which the movements still come to the position. -/
def KeepsPosition (s : TaxStore) : TaxCall → Prop
  | basis .. => True
  | movement org basisId input => ∀ b ∈ s.bases.get? basisId,
      b.organizationId = org → b.KeepsAsset input ∧ b.PartsAddUp input

/-- What is recognized and what is not are together the tax on the difference. -/
def ClosesWhole (s : TaxStore) : TaxCall → Prop
  | basis org input =>
    (newBasis org input).deferredTaxAmount +
      (newBasis org input).unrecognizedAmount =
        (calculateDeferredTax (calculateTemporaryDifference input.accountingBase input.taxBase)
          input.applicableTaxRate).1
  | movement _ basisId input => ∀ b ∈ s.bases.get? basisId,
      (movementTo basisId input b).deferredTaxClosing +
        (movementTo basisId input b).unrecognizedClosing = input.gross.1

instance (call : TaxCall) : Decidable (call.KeepsPosition s) := by
  cases call with
  | basis => exact isTrue trivial
  | movement org basisId input =>
    exact inferInstanceAs (Decidable (∀ b ∈ s.bases.get? basisId, _ → _ ∧ _))

end TaxCall

/-- No basis is there yet, and no movement. -/
def NoTax (s : TaxStore) : Prop := s.bases.rows = [] ∧ s.movements = []

def taxSystem : System TaxStore TaxCall := System.ofFunction NoTax TaxCall.after

theorem after_cases (call : TaxCall) :
    (call.after s = s ∧ call.KeepsPosition s) ∨
    (∃ org input, call.after s =
      { s with bases := s.bases.insert (newBasis org input) } ∧ call.KeepsPosition s) ∨
    ∃ org i input b, call = .movement org i input ∧
      s.bases.get? i = some b ∧ b.organizationId = org ∧ call.after s = { s with
        bases := s.bases.modify i (DeferredTaxBasis.closed input)
        movements := s.movements ++ [movementTo i input b] } := by
  cases call with
  | basis org input =>
    rcases commit_cases (createBasis org input) s with hsame | ⟨u, s', hrun, hafter⟩
    · exact .inl ⟨hsame, trivial⟩
    · rw [createBasis, get_bind] at hrun
      obtain ⟨-, hset⟩ := refuse_bind.mp hrun
      exact .inr (.inl ⟨org, input, hafter.trans (set_eq_ok.mp hset), trivial⟩)
  | movement org i input =>
    have hok : ∀ {u s'}, createMovement org i input s = .ok u s' ↔ ∃ b,
        s.bases.get? i = some b ∧ b.organizationId = org ∧ s' = { s with
          bases := s.bases.modify i (DeferredTaxBasis.closed input)
          movements := s.movements ++ [movementTo i input b] } := by
      intro u s'
      rw [createMovement, get_bind, orRaise_bind]
      simp only [Option.filter_eq_some_iff, decide_eq_true_eq, and_assoc, set_eq_ok]
    by_cases hown : ∃ b, s.bases.get? i = some b ∧ b.organizationId = org
    · obtain ⟨b, hb, horg⟩ := hown
      exact .inr (.inr ⟨org, i, input, b, rfl, hb, horg,
        commit_of_ok (a := ⟨⟩) (hok.mpr ⟨b, hb, horg, rfl⟩)⟩)
    · refine .inl ⟨?_, fun b hb horg => absurd ⟨b, hb, horg⟩ hown⟩
      rcases commit_cases (createMovement org i input) s with hsame | ⟨u, s', hrun, -⟩
      · exact hsame
      · obtain ⟨b, hb, horg, -⟩ := hok.mp hrun
        exact absurd ⟨b, hb, horg⟩ hown

theorem bases_after (call : TaxCall) (k : UUID) (b : DeferredTaxBasis)
    (h : s.bases.get? k = some b) : ∃ b', (call.after s).bases.get? k = some b' := by
  rcases after_cases (s := s) call with ⟨hsame, -⟩ | ⟨_, _, hbasis, -⟩ |
    ⟨_, i, input, b', -, -, -, hmoved⟩
  · rw [hsame]
    exact ⟨b, h⟩
  · rw [hbasis]
    exact ⟨b, get?_insert_of_some h _⟩
  · rw [hmoved]
    exact ⟨_, get?_modify_eq_some.mpr ⟨b, h, rfl⟩⟩

theorem movementsOf_append (s : TaxStore) (t : Table DeferredTaxBasis) (m : DeferredTaxMovement)
    (k : UUID) : movementsOf { bases := t, movements := s.movements ++ [m] } k =
      movementsOf s k ++ if m.basisId = k then [m] else [] := by
  rw [movementsOf, List.filter_append]
  congr 1
  by_cases h : m.basisId = k <;> simp [h]

/-- **Every call** keeps the movements a chain. -/
theorem Chained.after (h : Chained s) (call : TaxCall) : Chained (call.after s) := by
  rcases after_cases (s := s) call with ⟨hsame, -⟩ | ⟨_, new, hbasis, -⟩ |
    ⟨_, i, input, b, -, hb, -, hmoved⟩
  · rw [hsame]
    exact h
  · rw [hbasis]
    refine ⟨fun m hm => (h.known m hm).trans (Nat.lt_succ_self _), h.chain,
      fun k b' hb' m hm => ?_, fun k b' hb' => ?_⟩
    · rcases get?_insert_cases hb' with hold | ⟨rfl, -⟩
      · exact h.closed k b' hold m hm
      · obtain ⟨hmem, hkey⟩ := List.mem_filter.mp (List.mem_of_getLast? hm)
        exact absurd (of_decide_eq_true hkey) (h.known m hmem).ne
    · rcases get?_insert_cases hb' with hold | ⟨-, rfl⟩
      · exact h.stored k b' hold
      · exact newBasis_isStored _ new
  · rw [hmoved]
    have hopens : ∀ m ∈ (movementsOf s i).getLast?, OpensAt m (movementTo i input b) := by
      -- the columns of the movement take nothing from those of the basis
      intro m hm
      obtain ⟨haccounting, htax, hdifference, hrate, hamount⟩ := h.closed i b hb m hm
      have hstored := h.stored i b hb
      exact ⟨(halfUp_of_atScale hstored.accountingBase).trans haccounting,
        (halfUp_of_atScale hstored.taxBase).trans htax,
        (halfUp_of_atScale hstored.temporaryDifference).trans hdifference,
        (halfUp_of_atScale hstored.applicableTaxRate).trans hrate,
        (amountColumn_of_cents hstored.deferredTaxAmount).trans hamount⟩
    refine ⟨fun m hm => ?_, fun k => ?_, fun k b' hb' m hm => ?_, fun k b' hb' => ?_⟩
    · rcases List.mem_append.mp hm with hm | hm
      · exact h.known m hm
      · obtain rfl := List.mem_singleton.mp hm
        exact lt_next (t := s.bases) hb
    · rw [movementsOf_append]
      split_ifs with hk
      · obtain rfl : i = k := hk
        refine (h.chain i).append (List.isChain_singleton _) fun m hm next hnext => ?_
        obtain rfl := Option.some.inj hnext
        exact hopens m hm
      · rw [List.append_nil]
        exact h.chain k
    · rw [movementsOf_append] at hm
      rcases get?_modify_cases hb' with ⟨hne, hold⟩ | ⟨rfl, was, hwas, rfl⟩
      · rw [if_neg fun hk => hne hk.symm, List.append_nil] at hm
        exact h.closed k b' hold m hm
      · obtain rfl := Option.mem_unique hb hwas
        rw [if_pos (show (movementTo k input b).basisId = k from rfl), List.getLast?_concat] at hm
        obtain rfl := Option.some.inj hm
        exact ⟨rfl, rfl, rfl, rfl, rfl⟩
    · rcases get?_modify_cases hb' with ⟨-, hold⟩ | ⟨-, was, -, rfl⟩
      · exact h.stored k b' hold
      · exact closed_isStored was input

/-- **The movements are a chain** in every state reached. -/
theorem chained_of_reachable (hs : taxSystem.Reachable s) : Chained s := by
  refine hs.invariant (P := Chained) (fun s₀ hinit => ?_) ?_
  · obtain ⟨hbases, hmovements⟩ := hinit
    have hnone : ∀ k b, s₀.bases.get? k ≠ some b := by
      intro k b hb
      rw [Table.get?, hbases] at hb
      exact absurd hb (by simp)
    refine ⟨fun m hm => ?_, fun k => ?_, fun k b hb => absurd hb (hnone k b),
      fun k b hb => absurd hb (hnone k b)⟩
    · rw [hmovements] at hm
      exact absurd hm List.not_mem_nil
    · rw [movementsOf, hmovements]
      exact .nil
  · rintro s₁ call s₂ hs₁ rfl
    exact hs₁.after call

/-- **Every close is whole**. -/
theorem closesWhole (s : TaxStore) (call : TaxCall) : call.ClosesWhole s := by
  cases call with
  | basis org input =>
    obtain ⟨hcents, hrest⟩ := parts_recognizedAtFirst input.isRecognized
      input.recognitionProbability (atScale_halfUp 2
        (|calculateTemporaryDifference input.accountingBase input.taxBase| *
          input.applicableTaxRate))
    have hrests := (atScale_halfUp 2 (|calculateTemporaryDifference input.accountingBase
      input.taxBase| * input.applicableTaxRate)).sub hcents
    rw [← hrest] at hrests
    rw [TaxCall.ClosesWhole, newBasis, calculateDeferredTax, amountColumn_of_cents hcents,
      amountColumn_of_cents hrests, hrest]
    exact add_sub_cancel _ _
  | movement org i input =>
    intro b hb
    have hwhole := (closed_eq b input).2
    have hgross : input.gross.1 = halfUp 2 input.taxOn := rfl
    rw [DeferredTaxBasis.closed] at hwhole
    rw [movementTo, hgross]
    linarith

/-- Bases stay, and their movements follow them. -/
def Goes (s s' : TaxStore) : Prop :=
  (∀ k b, s.bases.get? k = some b → ∃ b', s'.bases.get? k = some b') ∧ Follows s s'

theorem Goes.refl (s : TaxStore) : Goes s s := by
  refine ⟨fun k b hb => ⟨b, hb⟩, fun k b b' hb hb' => ?_⟩
  rw [Option.mem_unique hb' hb]
  ring

theorem Goes.trans {s'' : TaxStore} (h : Goes s s') (h' : Goes s' s'') : Goes s s'' := by
  refine ⟨fun k b hb => ?_, fun k b b'' hb hb'' => ?_⟩
  · obtain ⟨b', hb'⟩ := h.1 k b hb
    exact h'.1 k b' hb'
  · obtain ⟨b', hb'⟩ := h.1 k b hb
    linarith [h.2 k b b' hb hb', h'.2 k b' b'' hb' hb'']

/-- **A call follows the position** exactly when it keeps the position. -/
theorem goes_after_iff (hs : Chained s) (call : TaxCall) :
    Goes s (call.after s) ↔ call.KeepsPosition s := by
  rcases after_cases (s := s) call with ⟨hsame, hkeeps⟩ | ⟨_, new, hbasis, hkeeps⟩ |
    ⟨org, i, input, b, rfl, hb, horg, hmoved⟩
  · rw [hsame]
    exact iff_of_true (Goes.refl s) hkeeps
  · rw [hbasis]
    refine iff_of_true ⟨fun k b' hb' => ⟨b', get?_insert_of_some hb' _⟩,
      fun k b' b'' hb' hb'' => ?_⟩ hkeeps
    rw [Option.mem_unique (get?_insert_of_some hb' _) hb'']
    exact (sub_self _).trans (sub_self _).symm
  · have hkeeps : (TaxCall.movement org i input).KeepsPosition s ↔
        b.KeepsAsset input ∧ b.PartsAddUp input := by
      refine ⟨fun h => h b hb horg, fun h b' hb' _ => ?_⟩
      rw [Option.mem_unique hb' hb]
      exact h
    rw [hmoved, hkeeps, ← follows_iff (k := i) (hs.stored i b hb).deferredTaxAmount]
    constructor
    · intro h
      have hown := h.2 i b (b.closed input) hb (get?_modify_eq_some.mpr ⟨b, hb, (if_pos rfl).symm⟩)
      rw [movementsOf_append, if_pos (show (movementTo i input b).basisId = i from rfl),
        List.map_append, List.sum_append, List.map_singleton, List.sum_singleton] at hown
      linarith
    · intro h
      refine ⟨fun k b' hb' => ⟨_, get?_modify_eq_some.mpr ⟨b', hb', rfl⟩⟩,
        fun k b' b'' hb' hb'' => ?_⟩
      rw [movementsOf_append, List.map_append, List.sum_append]
      rcases get?_modify_cases hb'' with ⟨hne, hold⟩ | ⟨rfl, was, hwas, rfl⟩
      · rw [Option.mem_unique hold hb', if_neg fun hk => hne hk.symm]
        simp
      · obtain rfl := Option.mem_unique hwas hb'
        obtain rfl := Option.mem_unique hwas hb
        rw [if_pos (show (movementTo k input was).basisId = k from rfl), List.map_singleton,
          List.sum_singleton]
        linarith

/-- **Deferred tax rolls forward**: every movement opens where the last one closed, what is
recognized and what is not make up the whole, and the net position is that of the bases. A call's
movements follow the position exactly when it keeps the asset of its basis and its parts add up,
and over a stretch of such calls the movements follow it. -/
theorem movements_follow_iff (s : TaxStore) (hs : taxSystem.Reachable s) :
    Chained s ∧
    (∀ call : TaxCall,
      call.ClosesWhole s ∧ (Follows s (call.after s) ↔ call.KeepsPosition s)) ∧
    (∀ s', taxSystem.RunWithin (fun s call => call.KeepsPosition s) s s' → Follows s s') ∧
    ∀ org jurisdictionId, (getSummary s org jurisdictionId).netPosition =
      -((activeBases s org jurisdictionId).map DeferredTaxBasis.position).sum := by
  have hchained := chained_of_reachable hs
  refine ⟨hchained, fun call => ⟨closesWhole s call, ?_⟩, fun s' hrun => ?_, netPosition_eq⟩
  · rw [← goes_after_iff hchained]
    exact ⟨fun h => ⟨bases_after call, h⟩, fun h => h.2⟩
  · refine (hrun.relates (P := Chained) (R := Goes) ?_ hchained Goes.refl
      (fun _ _ _ h h' => h.trans h') ?_).2
    · rintro s₁ call s₂ hs₁ - rfl
      exact hs₁.after call
    · rintro s₁ call s₂ hs₁ hkeeps rfl
      exact (goes_after_iff hs₁ call).mpr hkeeps

/-! ### A run -/

/-- No bases and no movements. -/
def noTax : TaxStore := ⟨Table.empty, []⟩

theorem noTax_noTax : NoTax noTax := ⟨rfl, rfl⟩

/-- A liability of 30, of which a third is recognized. -/
def partlyTaxable : DeferredTaxBasisInput where
  basisCode := "PPE"
  jurisdictionId := 2
  applicableTaxRate := 3 / 10
  accountingBase := 100
  recognitionProbability := some (1 / 3)

def grown : MovementInput := ⟨2024, 250, 40, 3 / 10, 1, 0⟩

/-- Of a tax of 63, a third at four decimals is recognized: the liability grows from 10.00 to 21.00,
one of it through OCI. -/
theorem movements_follow_iff_sample :
    Follows (System.after TaxCall.after noTax [.basis 1 partlyTaxable])
      (System.after TaxCall.after noTax [.basis 1 partlyTaxable, .movement 1 0 grown]) ∧
    ((movementsOf (System.after TaxCall.after noTax
        [.basis 1 partlyTaxable, .movement 1 0 grown]) 0).map
      fun m => (m.deferredTaxOpening, m.deferredTaxMovementPl, m.deferredTaxMovementOci,
        m.deferredTaxClosing)) = [(10, 10, 1, 21)] := by
  refine ⟨?_, by decide +kernel⟩
  have hfollows := ((movements_follow_iff _ (System.reachable_after noTax_noTax
    [.basis 1 partlyTaxable])).2.1 (.movement 1 0 grown)).2
  exact hfollows.mpr (by decide +kernel)

def taxable : DeferredTaxBasisInput where
  basisCode := "PPE"
  jurisdictionId := 2
  applicableTaxRate := 3 / 10
  accountingBase := 100

def turned : MovementInput := ⟨2024, 0, 100, 3 / 10, 0, 0⟩

/-- **A liability that turns into an asset** of the same amount does not move. -/
theorem turned_basis_does_not_move :
    ¬ ∀ s, taxSystem.Reachable s → Chained s ∧
      (∀ call : TaxCall, call.ClosesWhole s ∧ Follows s (call.after s)) := by
  intro h
  have hreach : taxSystem.Reachable (System.after TaxCall.after noTax [.basis 1 taxable]) :=
    System.reachable_after noTax_noTax _
  have hfollows := ((h _ hreach).2 (.movement 1 0 turned)).2
  have hown := hfollows 0 (newBasis 1 taxable) ((newBasis 1 taxable).closed turned)
    (by decide +kernel) (by decide +kernel)
  exact absurd hown (by decide +kernel)

end DotmacErp.DeferredTax
