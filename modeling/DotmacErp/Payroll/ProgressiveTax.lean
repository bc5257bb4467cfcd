import DotmacErp.Payroll.PayeCalculator

/-!
# Progressive tax

The calculation trusts the validation of the bands: `calculate` runs through whatever bands are in
force, and `validate_band_set` compares neighbours. Bands the validation accepts are a scale, so
their portions make up the taxable income, every band's tax is its rate times its portion in cents,
and the tax is that scale's levy but for half a cent a band. More pay is never taxed less, and at
no more than the highest rate.

The tax of an exempt employee has no bands.
-/

namespace DotmacErp.Payroll

open Calendar Rounding

variable {books : PayeBooks} {input : PayeInput} {band : TaxBand} {bands : List TaxBand} {x y : ℚ}

/-! ### One band -/

theorem cut_tier (band : TaxBand) (x : ℚ) :
    band.tier.cut x =
      match band.maxAmount with
      | none => x
      | some maxAmount => min x maxAmount := by
  rw [Tier.cut, TaxBand.tier]
  cases band.maxAmount with
  | none => rfl
  | some maxAmount => rfl

theorem calculateTax_eq (band : TaxBand) (x : ℚ) :
    band.calculateTax x = halfUp 2 (band.portion x * band.rate) := by
  rw [TaxBand.calculateTax]
  by_cases hle : x ≤ band.minAmount
  · have hzero : band.portion x = 0 := Tier.portion_eq_zero hle
    rw [if_pos hle, hzero, zero_mul, halfUp_zero]
  · have hpart : (if band.tier.cut x - band.minAmount ≤ 0 then 0
        else halfUp 2 ((band.tier.cut x - band.minAmount) * band.rate)) =
          halfUp 2 (band.portion x * band.rate) := by
      by_cases hnone : band.tier.cut x - band.minAmount ≤ 0
      · have hzero : band.portion x = 0 := max_eq_left hnone
        rw [if_pos hnone, hzero, zero_mul, halfUp_zero]
      · have hall : band.portion x = band.tier.cut x - band.minAmount :=
          max_eq_right (not_le.mp hnone).le
        rw [if_neg hnone, hall]
    rw [if_neg hle, ← hpart, cut_tier]
    cases band.maxAmount with
    | none => rfl
    | some maxAmount => rfl

theorem taxableInBand_eq (band : TaxBand) (x : ℚ) : band.taxableInBand x = band.portion x := by
  rw [TaxBand.taxableInBand]
  by_cases hle : x ≤ band.minAmount
  · rw [if_pos hle]
    exact (Tier.portion_eq_zero hle).symm
  · rw [if_neg hle, TaxBand.portion, Tier.portion, cut_tier]
    cases band.maxAmount with
    | none => exact (max_eq_right (sub_nonneg.mpr (not_le.mp hle).le)).symm
    | some maxAmount => exact max_comm _ _

theorem breakdown?_eq_none (h : band.breakdown? x = none) :
    band.portion x = 0 ∧ band.calculateTax x = 0 := by
  rw [TaxBand.breakdown?] at h
  have hnot : ¬ (0 < band.calculateTax x ∨ band.minAmount < x) := by
    intro hshown
    rw [if_pos hshown] at h
    exact Option.some_ne_none _ h
  obtain ⟨-, hmin⟩ := not_or.mp hnot
  have hportion : band.portion x = 0 := Tier.portion_eq_zero (not_lt.mp hmin)
  refine ⟨hportion, ?_⟩
  rw [calculateTax_eq, hportion, zero_mul, halfUp_zero]

theorem breakdown?_eq_some {b : TaxBandBreakdown} (h : band.breakdown? x = some b) :
    b.taxableInBand = band.portion x ∧ b.taxAmount = band.calculateTax x ∧ b.rate = band.rate := by
  rw [TaxBand.breakdown?] at h
  split at h
  · obtain rfl := Option.some.inj h
    exact ⟨taxableInBand_eq band x, rfl, rfl⟩
  · exact absurd h.symm (Option.some_ne_none _)

/-- Summing over the breakdown is summing over the bands, when a band that is left out counts
nothing. -/
theorem sum_filterMap_breakdown {f : TaxBandBreakdown → ℚ} {g : TaxBand → ℚ}
    (hsome : ∀ band b, band.breakdown? x = some b → f b = g band)
    (hnone : ∀ band, band.breakdown? x = none → g band = 0) :
    ((bands.filterMap (TaxBand.breakdown? x)).map f).sum = (bands.map g).sum := by
  induction bands with
  | nil => rfl
  | cons band bands ih =>
    rw [List.map_cons, List.sum_cons, List.filterMap_cons]
    cases hb : band.breakdown? x with
    | none => rw [hnone band hb, zero_add, ih]
    | some b => rw [List.map_cons, List.sum_cons, hsome band b hb, ih]

theorem sum_taxableInBand :
    ((bands.filterMap (TaxBand.breakdown? x)).map TaxBandBreakdown.taxableInBand).sum =
      (bands.map fun band => band.portion x).sum :=
  sum_filterMap_breakdown (fun _ _ h => (breakdown?_eq_some h).1)
    fun _ h => (breakdown?_eq_none h).1

theorem sum_taxAmount :
    ((bands.filterMap (TaxBand.breakdown? x)).map TaxBandBreakdown.taxAmount).sum =
      (bands.map fun band => band.calculateTax x).sum :=
  sum_filterMap_breakdown (fun _ _ h => (breakdown?_eq_some h).2.1)
    fun _ h => (breakdown?_eq_none h).2

/-! ### All bands -/

def taxOf (bands : List TaxBand) (x : ℚ) : ℚ := (bands.map fun band => band.calculateTax x).sum

def highestRate (bands : List TaxBand) : ℚ := (bands.map TaxBand.rate).foldr max 0

theorem rate_le_highestRate (h : band ∈ bands) : band.rate ≤ highestRate bands := by
  induction bands with
  | nil => exact absurd h List.not_mem_nil
  | cons b bands ih =>
    rcases List.mem_cons.mp h with rfl | h
    · exact le_max_left _ _
    · exact (ih h).trans (le_max_right _ _)

theorem abs_sum_sub_sum_le {α : Type*} {f g : α → ℚ} {c : ℚ} {l : List α}
    (h : ∀ a ∈ l, |f a - g a| ≤ c) : |(l.map f).sum - (l.map g).sum| ≤ c * l.length := by
  induction l with
  | nil => simp
  | cons a l ih =>
    have hhead := h a List.mem_cons_self
    have htail := ih fun b hb => h b (List.mem_cons_of_mem _ hb)
    rw [List.map_cons, List.map_cons, List.sum_cons, List.sum_cons, List.length_cons]
    push_cast
    calc |f a + (l.map f).sum - (g a + (l.map g).sum)|
        = |(f a - g a) + ((l.map f).sum - (l.map g).sum)| := by ring_nf
      _ ≤ |f a - g a| + |(l.map f).sum - (l.map g).sum| := abs_add_le _ _
      _ ≤ c + c * l.length := add_le_add hhead htail
      _ = c * (l.length + 1) := by ring

theorem abs_taxOf_sub_levy_le (bands : List TaxBand) (x : ℚ) :
    |taxOf bands x - Tier.levy TaxBand.tier TaxBand.rate bands x| ≤ 1 / 200 * bands.length := by
  refine abs_sum_sub_sum_le fun band _ => ?_
  rw [calculateTax_eq]
  refine (abs_halfUp_sub_le 2 _).trans (le_of_eq ?_)
  norm_num

theorem taxOf_mono (hrate : ∀ band ∈ bands, 0 ≤ band.rate) : Monotone (taxOf bands) := by
  intro x y h
  refine List.sum_le_sum fun band hb => ?_
  rw [calculateTax_eq, calculateTax_eq]
  exact halfUp_mono (mul_le_mul_of_nonneg_right (band.tier.portion_mono h) (hrate band hb))

theorem taxOf_le (haccepted : AcceptedBands bands) (hx : 0 ≤ x) (h : x ≤ y) :
    taxOf bands y ≤ taxOf bands x + highestRate bands * (y - x) + 1 / 100 * bands.length := by
  have hlevy := haccepted.consecutive.levy_sub_le (fun _ hb => rate_le_highestRate hb) hx h
  have hy := (abs_le.mp (abs_taxOf_sub_levy_le bands y)).2
  have hless := (abs_le.mp (abs_taxOf_sub_levy_le bands x)).1
  linarith

/-! ### The bands of the calculation -/

/-- When no sequence number occurs twice, the validation and the calculation see the bands in the
same order. -/
theorem bandsBySequence_eq (org : UUID) (asOfDate : Date)
    (h : ((getActiveBands books.taxBands org asOfDate).map TaxBand.sequence).Nodup) :
    bandsBySequence books org asOfDate =
      getActiveBands books.taxBands org asOfDate := by
  have hperm : (bandsBySequence books org asOfDate).Perm
      (getActiveBands books.taxBands org asOfDate) :=
    (List.perm_insertionSort _ _).trans (List.perm_insertionSort _ _).symm
  have htotal : Std.Total fun a b : TaxBand => a.sequence ≤ b.sequence :=
    ⟨fun a b => le_total a.sequence b.sequence⟩
  have htrans : IsTrans TaxBand fun a b => a.sequence ≤ b.sequence := ⟨fun _ _ _ => le_trans⟩
  have htotal' : Std.Total fun a b : TaxBand =>
      toLex (a.sequence, a.minAmount) ≤ toLex (b.sequence, b.minAmount) :=
    ⟨fun a b => le_total (toLex (a.sequence, a.minAmount)) (toLex (b.sequence, b.minAmount))⟩
  have htrans' : IsTrans TaxBand fun a b =>
      toLex (a.sequence, a.minAmount) ≤ toLex (b.sequence, b.minAmount) :=
    ⟨fun _ _ _ => le_trans⟩
  have hsorted : (getActiveBands books.taxBands org asOfDate).Pairwise
      fun a b => toLex (a.sequence, a.minAmount) ≤ toLex (b.sequence, b.minAmount) :=
    List.pairwise_insertionSort _ _
  have hsequence : (getActiveBands books.taxBands org asOfDate).Pairwise
      fun a b => a.sequence ≤ b.sequence :=
    hsorted.imp fun hle => Prod.Lex.monotone_fst _ _ hle
  refine hperm.eq_of_pairwise ?_ (List.pairwise_insertionSort _ _) hsequence
  intro a b ha hb hab hba
  exact List.inj_on_of_nodup_map h (hperm.subset ha) hb (le_antisymm hab hba)

theorem getTaxBands_eq (org : UUID) (asOfDate : Date)
    (h : (validateBandSet books.taxBands org asOfDate).Accepts) :
    getTaxBands books org asOfDate =
      getActiveBands books.taxBands org asOfDate := by
  have hsame := bandsBySequence_eq org asOfDate (acceptedBands h).nodup
  have hne : getActiveBands books.taxBands org asOfDate ≠ [] := by
    intro hnone
    rw [validateBandSet, hnone] at h
    exact List.cons_ne_nil _ _ h.1
  rw [getTaxBands, hsame]
  cases hbands : getActiveBands books.taxBands org asOfDate with
  | nil => exact absurd hbands hne
  | cons band bands => rfl

/-! ### The breakdown of a calculation -/

theorem taxableIncome_nonneg (books : PayeBooks) (input : PayeInput) :
    0 ≤ (calculate books input).taxableIncome := le_max_right _ _

theorem taxableIncome_mono {gross : ℚ} (h : input.grossMonthly ≤ gross) :
    (calculate books input).taxableIncome ≤
      (calculate books { input with grossMonthly := gross }).taxableIncome := by
  have hannual : input.grossMonthly * monthsPerYear ≤ gross * monthsPerYear :=
    mul_le_mul_of_nonneg_right h (by norm_num [monthsPerYear])
  exact max_le_max (sub_le_sub_right (sub_le_sub_right hannual _) _) le_rfl

theorem bandBreakdowns_eq (h : input.isExempt books = false) :
    (calculate books input).bandBreakdowns =
      (getTaxBands books input.organizationId input.asOfDate).filterMap
        (TaxBand.breakdown? (calculate books input).taxableIncome) := by
  change (if input.isExempt books = true then _ else _) = _
  rw [h]
  rfl

theorem annualTax_eq (h : input.isExempt books = false) :
    (calculate books input).annualTax =
      taxOf (getTaxBands books input.organizationId input.asOfDate)
        (calculate books input).taxableIncome := by
  change ((calculate books input).bandBreakdowns.map TaxBandBreakdown.taxAmount).sum = _
  rw [bandBreakdowns_eq h, sum_taxAmount, taxOf]

/-- **Progressive tax**: with bands the validation accepts, the portions in the breakdown of an
employee who is not exempt are nonnegative and make up the taxable income, whose every amount lies
in exactly one band; the annual tax is each portion at its rate, in cents; and more pay is taxed
no less, and at most at the highest rate and a cent a band more. -/
theorem progressive_tax (books : PayeBooks) (input : PayeInput)
    (haccepts : (validateBandSet books.taxBands input.organizationId input.asOfDate).Accepts)
    (hexempt : input.isExempt books = false) :
    let bands := getActiveBands books.taxBands input.organizationId input.asOfDate
    let paye := calculate books input
    (∀ b ∈ paye.bandBreakdowns, 0 ≤ b.taxableInBand) ∧
      (paye.bandBreakdowns.map TaxBandBreakdown.taxableInBand).sum = paye.taxableIncome ∧
      (∀ amount, 0 ≤ amount → ∃! t, t ∈ bands.map TaxBand.tier ∧ t.Contains amount) ∧
      paye.annualTax =
        (paye.bandBreakdowns.map fun b => halfUp 2 (b.rate * b.taxableInBand)).sum ∧
      ∀ gross, input.grossMonthly ≤ gross →
        let more := calculate books { input with grossMonthly := gross }
        paye.annualTax ≤ more.annualTax ∧
          more.annualTax ≤ paye.annualTax +
            highestRate bands * (more.taxableIncome - paye.taxableIncome) +
              1 / 100 * bands.length := by
  have haccepted := acceptedBands haccepts
  have hbands := getTaxBands_eq input.organizationId input.asOfDate haccepts
  have hnonneg := taxableIncome_nonneg books input
  have hbreakdown := bandBreakdowns_eq hexempt
  have htax := annualTax_eq hexempt
  rw [hbands] at htax
  refine ⟨fun b hb => ?_, ?_, fun amount h => haccepted.consecutive.existsUnique h, ?_,
    fun gross hle => ?_⟩
  · change b ∈ (calculate books input).bandBreakdowns at hb
    rw [hbreakdown] at hb
    obtain ⟨band, -, hsome⟩ := List.mem_filterMap.mp hb
    rw [(breakdown?_eq_some hsome).1]
    exact Tier.portion_nonneg _ _
  · have hsum := haccepted.consecutive.sum_portion hnonneg
    rw [List.map_map, sub_zero] at hsum
    rw [hbreakdown, sum_taxableInBand, hbands]
    exact hsum
  · refine congrArg List.sum (List.map_congr_left fun b hb => ?_)
    change b ∈ (calculate books input).bandBreakdowns at hb
    rw [hbreakdown] at hb
    obtain ⟨band, -, hsome⟩ := List.mem_filterMap.mp hb
    obtain ⟨hportion, hamount, hrate⟩ := breakdown?_eq_some hsome
    rw [hamount, hrate, hportion, calculateTax_eq, mul_comm]
  · -- the bands and the exemption do not depend on the pay
    have hmore : ({ input with grossMonthly := gross } : PayeInput).isExempt books = false :=
      hexempt
    have htax' := annualTax_eq hmore
    rw [hbands] at htax'
    have hincome : (calculate books input).taxableIncome ≤
        (calculate books { input with grossMonthly := gross }).taxableIncome :=
      taxableIncome_mono hle
    dsimp only
    rw [htax, htax']
    exact ⟨taxOf_mono haccepted.rate_nonneg hincome, taxOf_le haccepted hnonneg hincome⟩

def sampleBand (key : UUID) (minAmount : ℚ) (maxAmount : Option ℚ) (rate : ℚ) : TaxBand where
  taxBandId := some key
  organizationId := 1
  name := "Band"
  minAmount
  maxAmount
  rate
  effectiveFrom := ⟨2026, 7, 1, by decide⟩
  effectiveTo := none
  sequence := key
  isActive := true

/-- Two bands, and an exempt employee. -/
def samplePayeBooks : PayeBooks where
  taxBands := [sampleBand 1 0 (some 800000) 0, sampleBand 2 800000 none (15 / 100)]
  taxProfiles := [{
    organizationId := 1
    employeeId := 7
    tin := none
    taxState := none
    annualRent := 0
    rentReceiptVerified := false
    pensionRate := 8 / 100
    nhfRate := 0
    nhisRate := 0
    isTaxExempt := true
    effectiveFrom := ⟨2026, 7, 1, by decide⟩
    effectiveTo := none }]

def samplePayeInput (employeeId : Option UUID) : PayeInput where
  organizationId := 1
  grossMonthly := 100000
  basicMonthly := 0
  employeeId
  transportMonthly := none
  housingMonthly := none
  annualRent := none
  rentVerified := false
  pensionRate := none
  employerPensionRate := none
  nhfRate := none
  nhisRate := none
  asOfDate := ⟨2026, 8, 1, by decide⟩

theorem progressive_tax_sample :
    let paye := calculate samplePayeBooks (samplePayeInput none)
    (paye.bandBreakdowns.map TaxBandBreakdown.taxableInBand).sum = paye.taxableIncome ∧
      paye.annualTax = 60000 := by
  have hsample := progressive_tax samplePayeBooks (samplePayeInput none) (by decide +kernel)
    (by decide +kernel)
  have htax : (calculate samplePayeBooks (samplePayeInput none)).annualTax = 60000 := by
    decide +kernel
  exact ⟨hsample.2.1, htax⟩

/-- The portions of an exempt employee do not make up the taxable income. -/
theorem exempt_has_no_portions :
    ¬ ∀ (books : PayeBooks) (input : PayeInput),
      (validateBandSet books.taxBands input.organizationId input.asOfDate).Accepts →
        ((calculate books input).bandBreakdowns.map TaxBandBreakdown.taxableInBand).sum =
          (calculate books input).taxableIncome := by
  intro h
  have hexempt : ((calculate samplePayeBooks (samplePayeInput (some 7))).bandBreakdowns.map
      TaxBandBreakdown.taxableInBand).sum ≠
        (calculate samplePayeBooks (samplePayeInput (some 7))).taxableIncome := by
    decide +kernel
  exact hexempt (h samplePayeBooks (samplePayeInput (some 7)) (by decide +kernel))

end DotmacErp.Payroll
