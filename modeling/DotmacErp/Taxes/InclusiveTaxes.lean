import DotmacErp.Taxes.LineTaxes
import Mathlib.Tactic.LinearCombination

/-!
# Taxes in the price and taxes on top

Several codes that are included in a price are extracted one after the other, each from what the
codes before it have left. The tax of a code is therefore its rate of what is left after it alone,
and not of the net amount: what the codes after it take is taxed once more (`tax_sub_eq`).

So each tax is the rate of the net amount to within a cent, for every price, if and only if at most
one of the codes has a rate at all, and a rate of which the rounding to cents adds no more than a
cent (`inclusive_exact`). Of two codes with a rate one is wrong for every price that is large
enough; for ten percent twice in a price of 120 it is by nearly a whole unit (`later_taxes_taxed`).

When each is, applying the same codes on top of the net amount gives the price back, to within a
cent for each code.
-/

namespace DotmacErp.TaxCalculation

open Calendar Related Relational Rounding

/-! ### The same codes on top -/

def TaxCode.onTop (code : TaxCode) : TaxCode := { code with isInclusive := false }

def TaxCodeBook.onTop (book : TaxCodeBook) : TaxCodeBook where
  codes := book.codes.mapRows fun stored => stored.row.onTop
  unique := by
    intro k k' code code' h h' horganization htext
    rw [Table.get?_mapRows, Option.map_eq_some_iff] at h h'
    obtain ⟨row, hrow, rfl⟩ := h
    obtain ⟨row', hrow', rfl⟩ := h'
    exact book.unique k k' row row' hrow hrow' horganization htext

def storedOnTop (code : Stored TaxCode) : Stored TaxCode := ⟨code.id, code.row.onTop⟩

theorem getEffectiveTaxCode_onTop {book : TaxCodeBook} {org taxCodeId : UUID}
    {transactionDate : Date} {code : Stored TaxCode}
    (h : getEffectiveTaxCode book org taxCodeId transactionDate = .ok code) :
    getEffectiveTaxCode book.onTop org taxCodeId transactionDate =
      .ok (storedOnTop code) := by
  have hmap : getEffectiveTaxCode book.onTop org taxCodeId transactionDate =
      (getEffectiveTaxCode book org taxCodeId transactionDate).map storedOnTop := by
    rw [getEffectiveTaxCode, getEffectiveTaxCode, TaxCodeBook.onTop, Table.get?_mapRows,
      Option.filter_map]
    have hsame : (fun code : TaxCode => decide (code.organizationId = org)) ∘
        TaxCode.onTop = fun code => decide (code.organizationId = org) := by
      funext code
      rfl
    rw [hsame]
    cases (book.codes.get? taxCodeId).filter (·.organizationId = org) with
    | none => rfl
    | some row =>
      obtain ⟨_, _, _, _, _, effectiveTo, _, _, _, _, _, _⟩ := row
      simp only [Option.map_some, TaxCode.onTop]
      split_ifs
      · rfl
      · rfl
      · cases effectiveTo with
        | none => rfl
        | some effectiveTo =>
          simp only
          split_ifs <;> rfl
  rw [hmap, h]
  rfl

variable {codes : List (Stored TaxCode)}

theorem effectiveTaxCodes_onTop {book : TaxCodeBook} {org : UUID}
    {transactionDate : Date} {taxCodeIds : List UUID}
    (h : effectiveTaxCodes book org transactionDate taxCodeIds = .ok codes) :
    effectiveTaxCodes book.onTop org transactionDate taxCodeIds =
      .ok (codes.map storedOnTop) := by
  rw [effectiveTaxCodes_eq_ok_iff] at h ⊢
  rw [List.forall₂_map_right_iff]
  exact h.imp fun taxCodeId code hcode => getEffectiveTaxCode_onTop hcode

theorem sortCodes_onTop (codes : List (Stored TaxCode)) :
    sortCodes (codes.map storedOnTop) = (sortCodes codes).map storedOnTop :=
  (List.map_insertionSort _ _ storedOnTop codes fun _ _ _ _ => Iff.rfl).symm

/-! ### Taxes on top -/

def TaxCode.tax (code : TaxCode) (amount : ℚ) : ℚ := halfUp 2 (amount * code.taxRate)

theorem addTaxes_onTop (hkind : ∀ code ∈ codes, ¬ code.row.isCompound ∧ ¬ code.row.isFixedAmount)
    (netAmount : ℚ) (taxes : List LineTaxResult) :
    ∃ added, addTaxes netAmount taxes (codes.map storedOnTop) = .ok (taxes ++ added) ∧
      OfCodes (codes.map storedOnTop) added ∧
      added.map LineTaxResult.taxAmount = codes.map fun code => code.row.tax netAmount := by
  induction codes generalizing taxes with
  | nil => exact ⟨[], by rw [List.map_nil, addTaxes, List.append_nil], List.Forall₂.nil, rfl⟩
  | cons code codes ih =>
    rw [List.forall_mem_cons] at hkind
    obtain ⟨added, hadded, hof, hamounts⟩ := ih hkind.2
      (taxes ++ [taxResult (storedOnTop code) netAmount (code.row.tax netAmount)
        (taxes.length + 1)])
    have hsingle : calculateSingleTax netAmount code.row.onTop =
        .ok (netAmount, code.row.tax netAmount) := by
      have hfixed : ¬ code.row.onTop.isFixedAmount := hkind.1.2
      rw [calculateSingleTax, if_neg hfixed]
      rfl
    refine ⟨_, ?_, hof.cons (storedOnTop code) netAmount (code.row.tax netAmount)
      (taxes.length + 1), ?_⟩
    · rw [List.map_cons, addTaxes]
      rw [List.append_assoc, List.singleton_append] at hadded
      have hbase : ¬ (storedOnTop code).row.isCompound := hkind.1.1
      rw [if_neg hbase]
      change calculateSingleTax netAmount code.row.onTop >>= _ = _
      rw [hsingle]
      exact hadded
    · rw [List.map_cons, List.map_cons, hamounts]
      rfl

theorem taxesOfSorted_onTop
    (hkind : ∀ code ∈ codes, ¬ code.row.isCompound ∧ ¬ code.row.isFixedAmount) (netAmount : ℚ) :
    ∃ result, taxesOfSorted netAmount (codes.map storedOnTop) = .ok result ∧
      result.grossAmount = netAmount + (codes.map fun code => code.row.tax netAmount).sum := by
  have hinclusive : (codes.map storedOnTop).filter (·.row.isInclusive) = [] := by
    rw [List.filter_eq_nil_iff]
    intro code hcode
    obtain ⟨stored, -, rfl⟩ := List.mem_map.mp hcode
    exact Bool.false_ne_true
  have hexclusive : (codes.map storedOnTop).filter (!·.row.isInclusive) =
      codes.map storedOnTop := by
    rw [List.filter_eq_self]
    intro code hcode
    obtain ⟨stored, -, rfl⟩ := List.mem_map.mp hcode
    rfl
  obtain ⟨added, hadded, hof, hamounts⟩ := addTaxes_onTop hkind netAmount []
  have hall : added.filter (!·.isInclusive) = added := by
    rw [List.filter_eq_self]
    intro tax htax
    obtain ⟨code, hcode, -, heq, -⟩ := exists_of_forall₂ hof htax
    obtain ⟨stored, -, rfl⟩ := List.mem_map.mp hcode
    rw [heq]
    rfl
  rw [List.nil_append] at hadded
  refine ⟨lineResult netAmount netAmount added false, ?_, ?_⟩
  · rw [taxesOfSorted]
    simp only [hinclusive, hexclusive, extractTaxes, bind, Except.bind, hadded, pure, Except.pure]
    rfl
  · rw [lineResult, if_neg Bool.false_ne_true, hall, hamounts]

/-! ### Taxes in the price -/

/-- The tax of a code in an amount that later codes are extracted from: what the rate of the net
amount misses is the rate of what the later codes take, and what rounding adds. -/
def TaxCode.excess (code : TaxCode) (amount : ℚ) (later : List TaxCode) : ℚ :=
  let tax := halfUp 2 (code.share amount)
  code.taxRate * (amount - tax - leftOf (amount - tax) later) +
    (1 + code.taxRate) * (tax - code.share amount)

/-- No tax misses the rate of what is left in the end by more than a cent. -/
def Spares : ℚ → List TaxCode → Prop
  | _, [] => True
  | amount, code :: later => |code.excess amount later| ≤ 1 / 100 ∧
    Spares (amount - halfUp 2 (code.share amount)) later

/-- **What the rate of the net amount misses.** -/
theorem tax_sub_eq {code : TaxCode} (hinclusive : code.isInclusive) (hfixed : ¬ code.isFixedAmount)
    (hdivided : ¬ code.Undivided) (amount : ℚ) (later : List TaxCode) :
    halfUp 2 (code.share amount) -
        code.taxRate * leftOf (amount - halfUp 2 (code.share amount)) later =
      code.excess amount later := by
  have hdivisor : 1 + code.taxRate ≠ 0 := fun hzero => hdivided ⟨hinclusive, hfixed, hzero⟩
  have hshare : (1 + code.taxRate) * code.share amount = amount * code.taxRate := by
    rw [TaxCode.share, if_neg hfixed, if_pos hinclusive, mul_div_cancel₀ _ hdivisor]
  rw [TaxCode.excess]
  linear_combination hshare

/-- The tax is the rate of the net amount, to a cent. -/
def Within (netAmount : ℚ) (tax : LineTaxResult) : Prop :=
  |tax.taxAmount - tax.taxRate * netAmount| ≤ 1 / 100

def RatesOf (codes : List (Stored TaxCode)) (taxes : List LineTaxResult) : Prop :=
  List.Forall₂ (fun code tax => tax.taxRate = code.row.taxRate ∧ AtScale 2 tax.taxAmount) codes
    taxes

/-- The taxes that are extracted are the rates of what is left in the end if and only if the codes
spare it. -/
theorem extractTaxes_within
    (hkind : ∀ code ∈ codes, code.row.isInclusive ∧ ¬ code.row.isFixedAmount)
    (hdivided : ∀ code ∈ codes, ¬ code.row.Undivided) (amount : ℚ) (sequence : ℕ) :
    ∃ taxes netAmount, netAmount = leftOf amount (codes.map Stored.row) ∧
      extractTaxes amount sequence codes = .ok (taxes, netAmount) ∧
      netAmount + (taxes.map LineTaxResult.taxAmount).sum = amount ∧
      RatesOf codes taxes ∧
      ((∀ tax ∈ taxes, Within netAmount tax) ↔ Spares amount (codes.map Stored.row)) := by
  induction codes generalizing amount sequence with
  | nil => exact ⟨[], amount, rfl, rfl, add_zero _, List.Forall₂.nil, by simp [Spares]⟩
  | cons code codes ih =>
    rw [List.forall_mem_cons] at hkind hdivided
    obtain ⟨taxes, netAmount, hnet, htaxes, hsum, hrates, hwithin⟩ := ih hkind.2 hdivided.2
      (amount - halfUp 2 (code.row.share amount)) (sequence + 1)
    have hexcess := tax_sub_eq hkind.1.1 hkind.1.2 hdivided.1 amount (codes.map Stored.row)
    rw [← hnet] at hexcess
    refine ⟨taxResult code amount (halfUp 2 (code.row.share amount)) sequence :: taxes, netAmount,
      hnet, ?_, ?_, List.Forall₂.cons ⟨rfl, atScale_halfUp 2 _⟩ hrates, ?_⟩
    · rw [extractTaxes, calculateSingleTax_eq hdivided.1, if_pos hkind.1.1]
      simp only [htaxes, bind, Except.bind, pure, Except.pure]
    · rw [List.map_cons, List.sum_cons, add_left_comm, hsum]
      exact add_sub_cancel _ _
    · rw [List.forall_mem_cons, hwithin, List.map_cons, Spares, ← hexcess]
      rfl

/-- When the taxes in the price are the rates of the net amount to within a cent, they add up to
the taxes on top of it to within a cent for each. -/
theorem abs_sum_sub_tax_le {taxes : List LineTaxResult}
    {netAmount : ℚ} (hrates : RatesOf codes taxes) (h : ∀ tax ∈ taxes, Within netAmount tax) :
    |(codes.map fun code => code.row.tax netAmount).sum -
      (taxes.map LineTaxResult.taxAmount).sum| ≤ 1 / 100 * codes.length := by
  induction hrates with
  | nil => simp
  | cons hhead htail ih =>
    rename_i code tax codes taxes
    rw [List.forall_mem_cons] at h
    obtain ⟨hrate, hscale⟩ := hhead
    have hhead : |tax.taxAmount - code.row.tax netAmount| ≤ 1 / 100 := by
      have hclose : |tax.taxAmount - netAmount * code.row.taxRate| ≤ 1 / 10 ^ 2 := by
        have hwithin := h.1
        rw [Within, hrate, mul_comm code.row.taxRate] at hwithin
        exact hwithin.trans (by norm_num)
      exact (abs_sub_halfUp_le hscale hclose).trans (by norm_num)
    obtain ⟨hlow, hhigh⟩ := abs_le.mp hhead
    obtain ⟨hrestLow, hrestHigh⟩ := abs_le.mp (ih h.2)
    rw [List.map_cons, List.map_cons, List.sum_cons, List.sum_cons, List.length_cons, abs_le]
    push_cast
    constructor <;> linarith

/-! ### The law -/

/-- The law for one price: each tax in it is the rate of the net amount, and the same codes on top
of the net amount give the price back. -/
def IsExact (book : TaxCodeBook) (org : UUID) (taxCodeIds : List UUID)
    (transactionDate : Date) (lineAmount : ℚ) : Prop :=
  ∃ result, calculateLineTaxes book org lineAmount taxCodeIds transactionDate =
      .ok result ∧ (∀ tax ∈ result.taxes, Within result.netAmount tax) ∧
    ∃ again, calculateLineTaxes book.onTop org result.netAmount taxCodeIds
      transactionDate = .ok again ∧
      |again.grossAmount - lineAmount| ≤ 1 / 100 * taxCodeIds.length

/-- For one price the law holds if and only if something can be extracted by each code and the codes
spare what is left. -/
theorem isExact_iff {book : TaxCodeBook} {org : UUID} {transactionDate : Date}
    {taxCodeIds : List UUID} {codes : List (Stored TaxCode)}
    (hcodes : effectiveTaxCodes book org transactionDate taxCodeIds = .ok codes)
    (hkind : ∀ code ∈ codes, code.row.isInclusive ∧ ¬ code.row.isCompound ∧
      ¬ code.row.isFixedAmount) (lineAmount : ℚ) :
    IsExact book org taxCodeIds transactionDate lineAmount ↔
      (∀ code ∈ codes, ¬ code.row.Undivided) ∧ Spares lineAmount (includedCodes codes) := by
  by_cases hdivided : ∀ code ∈ codes, ¬ code.row.Undivided
  · have hsorted : ∀ code ∈ sortCodes codes, code ∈ codes :=
      fun code hcode => (sortCodes_perm codes).mem_iff.mp hcode
    have hall : (sortCodes codes).filter (·.row.isInclusive) = sortCodes codes :=
      List.filter_eq_self.mpr fun code hcode => (hkind code (hsorted code hcode)).1
    have hnone : (sortCodes codes).filter (!·.row.isInclusive) = [] :=
      List.filter_eq_nil_iff.mpr fun code hcode => by
        simp [(hkind code (hsorted code hcode)).1]
    have hsortedKind : ∀ code ∈ sortCodes codes, code.row.isInclusive ∧ ¬ code.row.isFixedAmount :=
      fun code hcode => ⟨(hkind code (hsorted code hcode)).1, (hkind code (hsorted code hcode)).2.2⟩
    have hsortedPlain : ∀ code ∈ sortCodes codes, ¬ code.row.isCompound ∧
        ¬ code.row.isFixedAmount :=
      fun code hcode => (hkind code (hsorted code hcode)).2
    obtain ⟨taxes, netAmount, -, htaxes, hsum, hrates, hwithin⟩ := extractTaxes_within hsortedKind
      (fun code hcode => hdivided code (hsorted code hcode)) lineAmount 1
    have hresult : ∃ result, calculateLineTaxes book org lineAmount taxCodeIds
        transactionDate = .ok result ∧ result.netAmount = netAmount ∧ result.taxes = taxes := by
      refine ⟨lineResult lineAmount netAmount taxes
        (!(sortCodes codes).isEmpty && ([] : List (Stored TaxCode)).isEmpty), ?_, rfl, rfl⟩
      rw [calculateLineTaxes_eq hcodes, taxesOfSorted]
      simp only [hall, hnone, htaxes, addTaxes, bind, Except.bind, pure, Except.pure]
    obtain ⟨result, hok, hnet, hresultTaxes⟩ := hresult
    obtain ⟨again, hagain, hgross⟩ := taxesOfSorted_onTop hsortedPlain netAmount
    have honTop : calculateLineTaxes book.onTop org netAmount taxCodeIds
        transactionDate = .ok again := by
      rw [calculateLineTaxes_eq (effectiveTaxCodes_onTop hcodes), sortCodes_onTop, hagain]
    rw [includedCodes, hall, ← hwithin]
    constructor
    · rintro ⟨result', hok', hwithin', -⟩
      obtain rfl : result = result' := Except.ok.inj (hok.symm.trans hok')
      rw [hresultTaxes, hnet] at hwithin'
      exact ⟨hdivided, hwithin'⟩
    · rintro ⟨-, hwithin'⟩
      refine ⟨result, hok, ?_, again, ?_, ?_⟩
      · rw [hresultTaxes, hnet]
        exact hwithin'
      · rw [hnet]
        exact honTop
      · have hlength : (sortCodes codes).length = taxCodeIds.length := by
          rw [(sortCodes_perm codes).length_eq, ← map_id_of_effectiveTaxCodes hcodes,
            List.length_map]
        have hle := abs_sum_sub_tax_le hrates hwithin'
        rw [hgross, ← hlength, ← hsum, add_sub_add_left_eq_sub]
        exact hle
  · constructor
    · rintro ⟨result, hresult, -⟩
      push Not at hdivided
      rw [calculateLineTaxes_of_undivided hcodes hdivided] at hresult
      cases hresult
    · rintro ⟨hall, -⟩
      exact absurd hall hdivided


/-! ### Where it fails -/

/-- A code whose tax is extracted from a price. -/
structure TaxCode.InPrice (code : TaxCode) : Prop where
  inclusive : code.isInclusive
  percentage : ¬ code.isFixedAmount
  divided : 1 + code.taxRate ≠ 0

/-- At most one of the codes has a rate other than zero. -/
def AtMostOneRate (codes : List TaxCode) : Prop :=
  codes.Pairwise fun code later => code.taxRate = 0 ∨ later.taxRate = 0

/-- Prices of any size. -/
def Unbounded (prices : Set ℚ) : Prop := ∀ bound, ∃ price ∈ prices, bound ≤ |price|

namespace TaxCode.InPrice

variable {code : TaxCode} (h : code.InPrice)

include h

theorem share_eq (amount : ℚ) :
    code.share amount = amount * code.taxRate / (1 + code.taxRate) := by
  rw [share, if_neg h.percentage, if_pos h.inclusive]

theorem mul_left_share (amount : ℚ) :
    (1 + code.taxRate) * (amount - code.share amount) = amount := by
  rw [h.share_eq, mul_sub, mul_div_cancel₀ _ h.divided]
  ring

theorem tax_of_rate_zero (hrate : code.taxRate = 0) (amount : ℚ) :
    halfUp 2 (code.share amount) = 0 := by
  rw [h.share_eq, hrate, mul_zero, zero_div, halfUp_zero]

/-- What a code leaves of prices of any size is of any size. -/
theorem unbounded_left {prices : Set ℚ} (hprices : Unbounded prices) :
    Unbounded ((fun price => price - halfUp 2 (code.share price)) '' prices) := by
  intro bound
  obtain ⟨price, hprice, hlarge⟩ := hprices (|1 + code.taxRate| * (bound + 1 / 200))
  refine ⟨_, Set.mem_image_of_mem _ hprice, ?_⟩
  have hleft : bound + 1 / 200 ≤ |price - code.share price| := by
    rw [← h.mul_left_share price, abs_mul] at hlarge
    exact le_of_mul_le_mul_left hlarge (abs_pos.mpr h.divided)
  have hrounding := abs_halfUp_sub_le 2 (code.share price)
  have htriangle := abs_sub_abs_le_abs_sub (price - code.share price)
    (halfUp 2 (code.share price) - code.share price)
  rw [sub_sub_sub_cancel_right] at htriangle
  linarith

end TaxCode.InPrice

section Rates

variable {codes : List TaxCode} (hprice : ∀ code ∈ codes, code.InPrice)

include hprice

theorem leftOf_of_rates_zero (hrates : ∀ code ∈ codes, code.taxRate = 0) (amount : ℚ) :
    leftOf amount codes = amount := by
  induction codes with
  | nil => rfl
  | cons code codes ih =>
    rw [List.forall_mem_cons] at hprice hrates
    rw [leftOf, hprice.1.tax_of_rate_zero hrates.1, sub_zero, ih hprice.2 hrates.2]

theorem leftOf_of_atMostOneRate (hone : AtMostOneRate codes) {code : TaxCode} (hcode : code ∈ codes)
    (hrate : code.taxRate ≠ 0) (amount : ℚ) :
    leftOf amount codes = amount - halfUp 2 (code.share amount) := by
  induction codes with
  | nil => exact absurd hcode List.not_mem_nil
  | cons first codes ih =>
    rw [List.forall_mem_cons] at hprice
    obtain ⟨hfirst, hrest⟩ := List.pairwise_cons.mp hone
    rcases List.mem_cons.mp hcode with rfl | hcode
    · exact leftOf_of_rates_zero hprice.2 (fun later hlater => (hfirst later hlater).resolve_left
        hrate) _
    · have hzero := (hfirst code hcode).resolve_right hrate
      rw [leftOf, hprice.1.tax_of_rate_zero hzero, sub_zero, ih hprice.2 hrest hcode]

/-- Where the codes spare prices of any size, at most one has a rate: what the last but one of them
misses grows with what the last one takes. -/
theorem atMostOneRate_of_spares {prices : Set ℚ} (hprices : Unbounded prices)
    (hspares : ∀ price ∈ prices, Spares price codes) : AtMostOneRate codes := by
  induction codes generalizing prices with
  | nil => exact List.Pairwise.nil
  | cons code codes ih =>
    rw [List.forall_mem_cons] at hprice
    have hleft := hprice.1.unbounded_left hprices
    have hone : AtMostOneRate codes := by
      refine ih hprice.2 hleft ?_
      rintro _ ⟨price, hmem, rfl⟩
      exact (hspares price hmem).2
    refine List.pairwise_cons.mpr ⟨fun later hlater => ?_, hone⟩
    by_contra hrates
    obtain ⟨hrate, hlaterRate⟩ := not_or.mp hrates
    -- what the later code takes of the rest is of any size
    have htaken : ∀ bound, ∃ price ∈ prices,
        bound ≤ |later.share (price - halfUp 2 (code.share price))| := by
      intro bound
      obtain ⟨_, ⟨price, hmem, rfl⟩, hlarge⟩ :=
        hleft (bound * |1 + later.taxRate| / |later.taxRate|)
      refine ⟨price, hmem, ?_⟩
      rw [(hprice.2 later hlater).share_eq, abs_div, abs_mul,
        le_div_iff₀ (abs_pos.mpr (hprice.2 later hlater).divided)]
      exact (div_le_iff₀ (abs_pos.mpr hlaterRate)).mp hlarge
    obtain ⟨price, hmem, hlarge⟩ := htaken
      ((1 / 100 + |1 + code.taxRate| * (1 / 200)) / |code.taxRate| + 1)
    have hexcess := (hspares price hmem).1
    rw [TaxCode.excess, leftOf_of_atMostOneRate hprice.2 hone hlater hlaterRate,
      sub_sub_cancel] at hexcess
    set taken := later.share (price - halfUp 2 (code.share price))
    have hround := abs_halfUp_sub_le 2 taken
    have hround' := abs_halfUp_sub_le 2 (code.share price)
    have htax : (1 / 100 + |1 + code.taxRate| * (1 / 200)) / |code.taxRate| < |halfUp 2 taken| := by
      have htriangle := abs_sub_abs_le_abs_sub taken (taken - halfUp 2 taken)
      rw [sub_sub_cancel, abs_sub_comm taken] at htriangle
      linarith
    have hgrows := (div_lt_iff₀ (abs_pos.mpr hrate)).mp htax
    have hrounded : |(1 + code.taxRate) * (halfUp 2 (code.share price) - code.share price)| ≤
        |1 + code.taxRate| * (1 / 200) := by
      rw [abs_mul]
      exact mul_le_mul_of_nonneg_left (hround'.trans (by norm_num)) (abs_nonneg _)
    have htriangle := abs_sub_abs_le_abs_sub (code.taxRate * halfUp 2 taken)
      (-((1 + code.taxRate) * (halfUp 2 (code.share price) - code.share price)))
    rw [sub_neg_eq_add, abs_neg, abs_mul] at htriangle
    linarith

/-- A single rate is spared in every price if and only if what the rounding of its tax adds is at
most a cent, which it is of the price whose tax is half a cent. -/
theorem spares_iff_of_atMostOneRate (hone : AtMostOneRate codes) :
    (∀ amount, Spares amount codes) ↔ ∀ code ∈ codes, |1 + code.taxRate| ≤ 2 := by
  induction codes with
  | nil => simp [Spares]
  | cons code codes ih =>
    rw [List.forall_mem_cons] at hprice ⊢
    obtain ⟨hfirst, hrest⟩ := List.pairwise_cons.mp hone
    rw [← ih hprice.2 hrest]
    by_cases hrate : code.taxRate = 0
    · have hspares : ∀ amount, Spares amount (code :: codes) ↔ Spares amount codes := by
        intro amount
        have hexcess : code.excess amount codes = 0 := by
          rw [TaxCode.excess, hprice.1.tax_of_rate_zero hrate, hprice.1.share_eq, hrate]
          ring
        rw [Spares, hprice.1.tax_of_rate_zero hrate, hexcess, sub_zero, abs_zero,
          and_iff_right (by norm_num)]
      simp only [hspares]
      exact (and_iff_right (by rw [hrate]; norm_num)).symm
    · -- the codes after it take nothing
      have hzero : ∀ later ∈ codes, later.taxRate = 0 := fun later hlater =>
        (hfirst later hlater).resolve_left hrate
      have hexcess : ∀ amount, code.excess amount codes =
          (1 + code.taxRate) * (halfUp 2 (code.share amount) - code.share amount) := by
        intro amount
        rw [TaxCode.excess, leftOf_of_rates_zero hprice.2 hzero, sub_self, mul_zero, zero_add]
      constructor
      · intro hspares
        refine ⟨?_, (ih hprice.2 hrest).mpr fun later hlater => ?_⟩
        · have htie := (hspares (1 / 200 * (1 + code.taxRate) / code.taxRate)).1
          have hshare : code.share (1 / 200 * (1 + code.taxRate) / code.taxRate) = 1 / 200 := by
            rw [hprice.1.share_eq, div_mul_cancel₀ _ hrate,
              mul_div_cancel_right₀ _ hprice.1.divided]
          have hhalf : halfUp 2 (1 / 200) = 1 / 100 := by decide +kernel
          rw [hexcess, hshare, hhalf, abs_mul] at htie
          norm_num at htie
          linarith
        · rw [hzero later hlater]
          norm_num
      · rintro ⟨hsmall, hspares⟩ amount
        refine ⟨?_, hspares _⟩
        rw [hexcess, abs_mul]
        have hmul := mul_le_mul hsmall (abs_halfUp_sub_le 2 (code.share amount)) (abs_nonneg _)
          (by norm_num)
        exact hmul.trans (by norm_num)

end Rates

/-- **Taxes in the price and taxes on top** agree for every price if and only if no code has the
rate minus one, at most one of them has a rate at all, and one plus it is at most two; where two
have a rate they agree for no price that is large enough. -/
theorem inclusive_exact {book : TaxCodeBook} {org : UUID} {transactionDate : Date}
    {taxCodeIds : List UUID} {codes : List (Stored TaxCode)}
    (hcodes : effectiveTaxCodes book org transactionDate taxCodeIds = .ok codes)
    (hkind : ∀ code ∈ codes, code.row.isInclusive ∧ ¬ code.row.isCompound ∧
      ¬ code.row.isFixedAmount) :
    ((∀ lineAmount, IsExact book org taxCodeIds transactionDate lineAmount) ↔
      (∀ code ∈ codes, code.row.taxRate ≠ -1 ∧ |1 + code.row.taxRate| ≤ 2) ∧
        AtMostOneRate (codes.map Stored.row)) ∧
    (¬ AtMostOneRate (codes.map Stored.row) → ∃ bound, ∀ lineAmount, bound ≤ |lineAmount| →
      ¬ IsExact book org taxCodeIds transactionDate lineAmount) := by
  have hexact := isExact_iff hcodes hkind
  have hperm : (includedCodes codes).Perm (codes.map Stored.row) := by
    have hall : (sortCodes codes).filter (·.row.isInclusive) = sortCodes codes :=
      List.filter_eq_self.mpr fun code hcode =>
        (hkind code ((sortCodes_perm codes).mem_iff.mp hcode)).1
    rw [includedCodes, hall]
    exact (sortCodes_perm codes).map _
  have hone : AtMostOneRate (includedCodes codes) ↔ AtMostOneRate (codes.map Stored.row) :=
    hperm.pairwise_iff fun h => h.symm
  have hundivided : ∀ code ∈ codes, code.row.Undivided ↔ code.row.taxRate = -1 := by
    intro code hcode
    rw [TaxCode.Undivided, and_iff_right (hkind code hcode).1,
      and_iff_right (hkind code hcode).2.2, add_comm, add_eq_zero_iff_eq_neg]
  by_cases hdivided : ∀ code ∈ codes, code.row.taxRate ≠ -1
  · have hprice : ∀ code ∈ includedCodes codes, code.InPrice := by
      intro code hcode
      obtain ⟨stored, hstored, rfl⟩ := List.mem_map.mp (hperm.mem_iff.mp hcode)
      obtain ⟨hinclusive, -, hpercentage⟩ := hkind stored hstored
      refine ⟨hinclusive, hpercentage, fun hzero => hdivided stored hstored ?_⟩
      rwa [add_comm, add_eq_zero_iff_eq_neg] at hzero
    have hspares : ∀ lineAmount, IsExact book org taxCodeIds transactionDate lineAmount ↔
        Spares lineAmount (includedCodes codes) := fun lineAmount =>
      (hexact lineAmount).trans (and_iff_right fun code hcode =>
        mt (hundivided code hcode).mp (hdivided code hcode))
    simp only [hspares]
    constructor
    · have hsmall : (∀ code ∈ includedCodes codes, |1 + code.taxRate| ≤ 2) ↔
          ∀ code ∈ codes, code.row.taxRate ≠ -1 ∧ |1 + code.row.taxRate| ≤ 2 := by
        simp only [hperm.mem_iff, List.forall_mem_map]
        exact forall₂_congr fun code hcode => (and_iff_right (hdivided code hcode)).symm
      rw [← hone, ← hsmall]
      constructor
      · intro h
        have huniv : Unbounded Set.univ := fun bound => ⟨bound, trivial, le_abs_self bound⟩
        have hatMostOne := atMostOneRate_of_spares hprice huniv fun price _ => h price
        exact ⟨(spares_iff_of_atMostOneRate hprice hatMostOne).mp h, hatMostOne⟩
      · rintro ⟨hsmall, hatMostOne⟩
        exact (spares_iff_of_atMostOneRate hprice hatMostOne).mpr hsmall
    · intro hmany
      by_contra hunbounded
      push Not at hunbounded
      have hspared : Unbounded {price | Spares price (includedCodes codes)} := by
        intro bound
        obtain ⟨price, hbound, hspared⟩ := hunbounded bound
        exact ⟨price, hspared, hbound⟩
      exact hmany (hone.mp (atMostOneRate_of_spares hprice hspared fun _ h => h))
  · push Not at hdivided
    obtain ⟨code, hcode, hrate⟩ := hdivided
    have hnever : ∀ lineAmount,
        ¬ IsExact book org taxCodeIds transactionDate lineAmount := fun lineAmount h =>
      ((hexact lineAmount).mp h).1 code hcode ((hundivided code hcode).mpr hrate)
    exact ⟨iff_of_false (fun h => hnever 0 (h 0)) fun h => (h.1 code hcode).1 hrate,
      fun _ => ⟨0, fun lineAmount _ => hnever lineAmount⟩⟩

def firstTax : TaxCode :=
  { vatIncluded with
    taxCode := "A-INC"
    taxName := "First tax in the price" }

def secondTax : TaxCode :=
  { vatIncluded with
    taxCode := "B-INC"
    taxName := "Second tax in the price" }

def inclusiveBook : TaxCodeBook := bookOfTwo firstTax secondTax (by decide)

theorem inclusiveBook_codes :
    effectiveTaxCodes inclusiveBook 1 ⟨2024, 7, 1, by decide⟩ [0, 1] =
      .ok [⟨0, firstTax⟩, ⟨1, secondTax⟩] := by
  decide +kernel

/-- A code of no rate, in the price as well. -/
def exemptIncluded : TaxCode :=
  { vatIncluded with
    taxCode := "EXEMPT"
    taxName := "Exempt, in the price"
    taxRate := 0 }

def exemptBook : TaxCodeBook := bookOfTwo exemptIncluded firstTax (by decide)

theorem exemptBook_codes :
    effectiveTaxCodes exemptBook 1 ⟨2024, 7, 1, by decide⟩ [0, 1] =
      .ok [⟨0, exemptIncluded⟩, ⟨1, firstTax⟩] := by
  decide +kernel

/-- Ten percent and an exempt code in any price; ten percent twice in no large one. -/
theorem inclusive_exact_sample :
    (∀ lineAmount, IsExact exemptBook 1 [0, 1] ⟨2024, 7, 1, by decide⟩ lineAmount) ∧
      ∃ bound, ∀ lineAmount, bound ≤ |lineAmount| →
        ¬ IsExact inclusiveBook 1 [0, 1] ⟨2024, 7, 1, by decide⟩ lineAmount := by
  refine ⟨(inclusive_exact exemptBook_codes (by decide +kernel)).1.mpr ⟨?_, ?_⟩,
    (inclusive_exact inclusiveBook_codes (by decide +kernel)).2 ?_⟩
  · decide +kernel
  · simp [AtMostOneRate, exemptIncluded]
  · simp [AtMostOneRate, firstTax, secondTax, vatIncluded]

/-- Of two codes of ten percent in a price of 120 the first takes 10.91, of which the second has its
share; ten percent of the net amount, 99.17, are 9.92. -/
theorem later_taxes_taxed : ¬ ∀ (book : TaxCodeBook) (org : UUID)
    (transactionDate : Date) (taxCodeIds : List UUID) (codes : List (Stored TaxCode))
    (lineAmount : ℚ),
    effectiveTaxCodes book org transactionDate taxCodeIds = .ok codes →
    (∀ code ∈ codes, code.row.isInclusive ∧ ¬ code.row.isCompound ∧ ¬ code.row.isFixedAmount) →
    ∃ result, calculateLineTaxes book org lineAmount taxCodeIds transactionDate =
      .ok result ∧ ∀ tax ∈ result.taxes, Within result.netAmount tax := by
  intro h
  obtain ⟨result, hresult, hwithin⟩ := h inclusiveBook 1 ⟨2024, 7, 1, by decide⟩ [0, 1] _ 120
    inclusiveBook_codes (by decide +kernel)
  have hamounts : (calculateLineTaxes inclusiveBook 1 120 [0, 1] ⟨2024, 7, 1, by decide⟩).map
      (fun result => (result.netAmount, result.taxes.map fun tax => (tax.taxAmount, tax.taxRate))) =
      .ok (9917 / 100, [(1091 / 100, 1 / 10), (992 / 100, 1 / 10)]) := by
    decide +kernel
  rw [hresult] at hamounts
  obtain ⟨hnet, htaxes⟩ := Prod.mk.inj (Except.ok.inj hamounts)
  have hmem : ((1091 / 100 : ℚ), (1 / 10 : ℚ)) ∈
      result.taxes.map fun tax => (tax.taxAmount, tax.taxRate) := by
    rw [htaxes]
    exact List.mem_cons_self
  obtain ⟨tax, htax, heq⟩ := List.mem_map.mp hmem
  obtain ⟨hamount, hrate⟩ := Prod.mk.inj heq
  have hfirst := hwithin tax htax
  rw [Within, hamount, hrate, hnet] at hfirst
  norm_num [abs_le] at hfirst

end DotmacErp.TaxCalculation
