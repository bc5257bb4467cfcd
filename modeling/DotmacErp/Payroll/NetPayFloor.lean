import DotmacErp.Foundation.Draws
import DotmacErp.Foundation.RoundedSums
import DotmacErp.Payroll.LoanDeductions

/-!
# The floor of the net pay

A slip leaves an employee a third of the gross pay: what the deductions may come to altogether is
the gross without its share `minNetPayRatio`, rounded to cents. What the existing deductions leave
of that cap is drawn on by the loans in their order, each for what is due on it
(`serves_taken`). So the loans that are served are the first ones with something due, and they get
what is due altogether or all that is left (`sum_amounts`).

What is left is rounded to cents before a loan may have it, so that a gross in more than cents
lets the deductions above the cap by a fraction of a cent (`cap_rounded_up`). And a loan without
terms that make sense, such as a negative rate, is split into portions that are negative.
`keepsFloor_iff` says when neither happens.
-/

namespace DotmacErp.Payroll

open LoanService Relational Rounding

/-! ### What is left of the cap -/

def deductionCap (grossPay : ℚ) : ℚ := grossPay - currency (grossPay * minNetPayRatio)

def LoanService.DeductionRequest.leeway (request : DeductionRequest) (grossPay : ℚ) : ℚ :=
  deductionCap grossPay - request.totalExistingDeductions

section Capacity

variable {request : DeductionRequest} {grossPay running : ℚ}

/-- What is left after amounts in cents is rounded as what was left before them, unless nothing
is left. -/
theorem remainingCapacity_eq (leeway : ℚ) (hrunning : AtScale 2 running) (h0 : 0 ≤ running) :
    (0 < currency (leeway - running) ↔ 0 < currency leeway - running) ∧
      (0 < currency (leeway - running) →
        currency (leeway - running) = currency leeway - running) := by
  rcases le_or_gt running leeway with hle | hlt
  · have hround : currency leeway = running + currency (leeway - running) :=
      halfUp_of_le hrunning h0 hle
    rw [hround, add_sub_cancel_left]
    exact ⟨Iff.rfl, fun _ => rfl⟩
  · have hnone : currency (leeway - running) ≤ 0 := by
      have hmono := halfUp_mono (n := 2) (sub_neg.mpr hlt).le
      rwa [halfUp_zero] at hmono
    have hless : currency leeway ≤ running := by
      have hmono := halfUp_mono (n := 2) hlt.le
      rwa [halfUp_of_atScale hrunning] at hmono
    exact ⟨iff_of_false (not_lt.mpr hnone) (not_lt.mpr (sub_nonpos.mpr hless)),
      fun hpos => absurd hpos (not_lt.mpr hnone)⟩

theorem dueAmount_of_grossPay (hgross : request.grossPay = some grossPay) (hpos : 0 < grossPay)
    (hrunning : AtScale 2 running) (h0 : 0 ≤ running) (loan : EmployeeLoan) :
    dueAmount request running loan =
      if 0 < loan.due ∧ 0 < currency (request.leeway grossPay) - running then
        some (min loan.due (currency (request.leeway grossPay) - running))
      else none := by
  obtain ⟨hiff, heq⟩ := remainingCapacity_eq (request.leeway grossPay) hrunning h0
  have hleft : grossPay - currency (grossPay * minNetPayRatio) -
      (request.totalExistingDeductions + running) = request.leeway grossPay - running := by
    rw [LoanService.DeductionRequest.leeway, deductionCap]
    ring
  simp only [dueAmount, hgross, due_eq, if_pos hpos, hleft]
  by_cases hcapacity : 0 < currency (request.leeway grossPay - running)
  · have hmin : (if loan.due > currency (request.leeway grossPay - running) then
        currency (request.leeway grossPay - running) else loan.due) =
          min loan.due (currency (request.leeway grossPay) - running) := by
      rw [← heq hcapacity]
      split_ifs with hgt
      · exact (min_eq_right hgt.le).symm
      · exact (min_eq_left (not_lt.mp hgt)).symm
    have hleftPos := hiff.mp hcapacity
    rw [if_neg (not_le.mpr hcapacity), hmin]
    simp only [Option.filter_some, lt_min_iff, decide_eq_true_eq]
  · rw [if_pos (not_lt.mp hcapacity), if_neg fun h => hcapacity (hiff.mpr h.2)]
    rfl

end Capacity

/-! ### The loans draw on what is left -/

def dueDrawing : Drawing (Stored EmployeeLoan × ℚ) ℚ where
  amount := Prod.snd
  take q loan := (loan.1, loan.2 - q)
  amount_take _ _ := rfl
  take_take a b loan _ := by rw [sub_sub]

def Owes (s : LoanStore) (request : DeductionRequest) (row : Stored EmployeeLoan) : Prop :=
  ¬ Excused s request row ∧ 0 < row.row.due

instance (s : LoanStore) (request : DeductionRequest) (row : Stored EmployeeLoan) :
    Decidable (Owes s request row) :=
  inferInstanceAs (Decidable (_ ∧ _))

def duesOf (s : LoanStore) (request : DeductionRequest) (rows : List (Stored EmployeeLoan)) :
    List (Stored EmployeeLoan × ℚ) :=
  (rows.filter fun row => Owes s request row).map fun row => (row, row.row.due)

def sharesOf (s : LoanStore) (request : DeductionRequest) (rows : List (Stored EmployeeLoan))
    (left : ℚ) : List ((Stored EmployeeLoan × ℚ) × ℚ) :=
  dueDrawing.taken (duesOf s request rows) left

def IsItemOf (s : LoanStore) (share : (Stored EmployeeLoan × ℚ) × ℚ) (item : LoanDeductionItem) :
    Prop :=
  ∃ principalPortion interestPortion,
    splitOf s share.1.1.row share.2 = .ok (principalPortion, interestPortion) ∧
      item = itemOf s share.1.1 share.2 principalPortion interestPortion

section Shares

variable {s : LoanStore} {request : DeductionRequest} {grossPay running : ℚ}
  {rows : List (Stored EmployeeLoan)} {items : List LoanDeductionItem}

theorem duesOf_cons_pos {row : Stored EmployeeLoan} (h : Owes s request row) :
    duesOf s request (row :: rows) = (row, row.row.due) :: duesOf s request rows := by
  rw [duesOf, List.filter_cons_of_pos (by simpa using h), List.map_cons, ← duesOf]

theorem duesOf_cons_neg {row : Stored EmployeeLoan} (h : ¬ Owes s request row) :
    duesOf s request (row :: rows) = duesOf s request rows := by
  rw [duesOf, List.filter_cons_of_neg (by simpa using h), ← duesOf]

theorem pos_of_mem_duesOf {due : Stored EmployeeLoan × ℚ} (h : due ∈ duesOf s request rows) :
    due.1 ∈ rows ∧ due.2 = due.1.row.due ∧ 0 < due.2 := by
  obtain ⟨row, hrow, rfl⟩ := List.mem_map.mp h
  rw [List.mem_filter, decide_eq_true_eq] at hrow
  exact ⟨hrow.1, rfl, hrow.2.2⟩

/-- **The deductions are the shares of the loans in what is left of the cap.** -/
theorem serves_taken (h : Serves s request running rows items)
    (hgross : request.grossPay = some grossPay) (hpos : 0 < grossPay)
    (hscale : ∀ row ∈ rows, AtScale 2 row.row.outstandingBalance)
    (hrunning : AtScale 2 running) (h0 : 0 ≤ running) :
    List.Forall₂ (IsItemOf s)
      (sharesOf s request rows (currency (request.leeway grossPay) - running)) items := by
  induction h with
  | nil running => exact .nil
  | @pass running row rows items hpass h ih =>
    have hrest := ih (fun row hrow => hscale row (List.mem_cons_of_mem _ hrow)) hrunning h0
    by_cases howes : Owes s request row
    · -- it owes something and gets nothing: nothing is left, for it or for those after it
      have hnone := hpass.resolve_left howes.1
      rw [dueAmount_of_grossPay hgross hpos hrunning h0] at hnone
      have hleft : currency (request.leeway grossPay) - running ≤ 0 := by
        by_contra hcapacity
        rw [if_pos ⟨howes.2, not_le.mp hcapacity⟩] at hnone
        exact absurd hnone (by simp)
      rw [sharesOf, dueDrawing.taken_of_nonpos _ hleft] at hrest ⊢
      exact hrest
    · rw [sharesOf, duesOf_cons_neg howes]
      exact hrest
  | @serve running amount principalPortion interestPortion row rows items hserve hdue hsplit h ih =>
    rw [dueAmount_of_grossPay hgross hpos hrunning h0] at hdue
    by_cases hcan : 0 < row.row.due ∧ 0 < currency (request.leeway grossPay) - running
    · rw [if_pos hcan] at hdue
      have hamount := Option.some.inj hdue
      have hamountScale : AtScale 2 amount := by
        rw [← hamount]
        rcases min_choice row.row.due
          (currency (request.leeway grossPay) - running) with hmin | hmin
        · rw [hmin]
          exact atScale_due (hscale row List.mem_cons_self)
        · rw [hmin]
          exact (atScale_halfUp 2 _).sub hrunning
      have hamountPos : 0 < amount := by
        rw [← hamount]
        exact lt_min hcan.1 hcan.2
      have hrest := ih (fun row hrow => hscale row (List.mem_cons_of_mem _ hrow))
        (hrunning.add hamountScale) (add_nonneg h0 hamountPos.le)
      rw [sharesOf, duesOf_cons_pos ⟨hserve, hcan.1⟩, dueDrawing.taken_cons _ _ hcan.2]
      have hdrawn : min (dueDrawing.amount (row, row.row.due))
          (currency (request.leeway grossPay) - running) = amount := hamount
      rw [hdrawn, sub_sub]
      exact .cons ⟨principalPortion, interestPortion, hsplit, rfl⟩ hrest
    · rw [if_neg hcan] at hdue
      exact absurd hdue (by simp)

end Shares

/-! ### Keeping the floor -/

structure ServesLoan (row : Stored EmployeeLoan) (item : LoanDeductionItem) : Prop where
  loan : item.loanId = row.id
  positive : 0 < item.amount
  balance : item.amount ≤ row.row.outstandingBalance
  installment : item.amount ≤ row.row.monthlyInstallment
  sum : item.amount = item.principalPortion + item.interestPortion
  principal : 0 ≤ item.principalPortion
  interest : 0 ≤ item.interestPortion

/-- **The deductions keep the floor of the net pay**: with the existing ones they stay within the
cap, and they serve the loans that owe something in their order, none being skipped. -/
structure KeepsFloor (s : LoanStore) (request : DeductionRequest) (grossPay : ℚ)
    (loans : List (Stored EmployeeLoan)) (items : List LoanDeductionItem) : Prop where
  within : request.totalExistingDeductions + (items.map LoanDeductionItem.amount).sum ≤
    deductionCap grossPay
  served : ∃ rows, rows <+: loans.filter (fun row => Owes s request row) ∧
    List.Forall₂ ServesLoan rows items

/-- A share of a loan has portions that are not negative: nothing of it is interest, or the
interest accrued is not negative, or the agreed interest is between nothing and the whole, to half a
cent. -/
def PortionsFit (s : LoanStore) (loan : EmployeeLoan) (amount : ℚ) : Prop :=
  loan.interestRate ≠ 0 → loan.totalInterest ≠ 0 →
    if (loanTypeOf s loan).map LoanType.interestMethod = some .reducingBalance then
      -(1 / 200) < accruedInterest loan
    else
      -(1 / 200) < flatInterest loan amount ∧ flatInterest loan amount < amount + 1 / 200

/-- What keeps the deductions within the cap: what is left of it is not rounded up, or is enough for
all that is due. -/
def CapHolds (s : LoanStore) (request : DeductionRequest) (grossPay : ℚ)
    (loans : List (Stored EmployeeLoan)) : Prop :=
  currency (request.leeway grossPay) ≤ request.leeway grossPay ∨
    ((duesOf s request loans).map Prod.snd).sum ≤ request.leeway grossPay

section Floor

variable {s : LoanStore} {request : DeductionRequest} {grossPay : ℚ}
  {loans : List (Stored EmployeeLoan)} {items : List LoanDeductionItem}

theorem splitOf_eq_ok {loan : EmployeeLoan} {amount principalPortion interestPortion : ℚ}
    (hscale : AtScale 2 amount) (hpos : 0 < amount)
    (h : splitOf s loan amount = .ok (principalPortion, interestPortion)) :
    amount = principalPortion + interestPortion ∧
      (0 ≤ principalPortion ∧ 0 ≤ interestPortion ↔ PortionsFit s loan amount) := by
  have hunit : (1 : ℚ) / (2 * 10 ^ 2) = 1 / 200 := by norm_num
  rw [splitOf, splitPayment] at h
  rw [PortionsFit]
  split_ifs at h with hfree hmethod hzero
  · obtain ⟨rfl, rfl⟩ := Prod.mk.inj (Except.ok.inj h)
    refine ⟨(add_zero _).symm, iff_of_true ⟨hpos.le, le_rfl⟩ fun hrate hinterest => ?_⟩
    simp [hrate, hinterest] at hfree
  · obtain ⟨rfl, rfl⟩ := Prod.mk.inj (Except.ok.inj h)
    simp only [Bool.or_eq_true, decide_eq_true_eq, not_or] at hfree
    have haccrued := halfUp_nonneg_iff (n := 2) (q := accruedInterest loan)
    rw [hunit] at haccrued
    refine ⟨(sub_add_cancel _ _).symm, ?_⟩
    rw [if_pos hmethod]
    simp only [forall_const, hfree.1, hfree.2, ne_eq, not_false_eq_true, ← haccrued]
    split_ifs with hgt
    · rw [sub_self]
      exact iff_of_true ⟨le_rfl, hpos.le⟩ (hpos.trans hgt).le
    · exact ⟨fun hand => hand.2, fun hnonneg => ⟨sub_nonneg.mpr (not_lt.mp hgt), hnonneg⟩⟩
  · obtain ⟨rfl, rfl⟩ := Prod.mk.inj (Except.ok.inj h)
    simp only [Bool.or_eq_true, decide_eq_true_eq, not_or] at hfree
    have hlow := halfUp_nonneg_iff (n := 2) (q := flatInterest loan amount)
    have hhigh := halfUp_le_iff (q := flatInterest loan amount) hscale hpos.le
    rw [hunit] at hlow hhigh
    refine ⟨(sub_add_cancel _ _).symm, ?_⟩
    rw [if_neg hmethod]
    simp only [forall_const, hfree.1, hfree.2, ne_eq, not_false_eq_true, ← hlow, ← hhigh,
      sub_nonneg]
    exact and_comm

theorem exists_of_forall₂ {α γ : Type} {R : α → γ → Prop} {l : List α} {l' : List γ}
    (h : List.Forall₂ R l l') {a : α} (ha : a ∈ l) : ∃ b ∈ l', R a b := by
  induction h with
  | nil => exact absurd ha (by simp)
  | cons hab h ih =>
    rcases List.mem_cons.mp ha with rfl | ha
    · exact ⟨_, List.mem_cons_self, hab⟩
    · obtain ⟨b, hb, hrel⟩ := ih ha
      exact ⟨b, List.mem_cons_of_mem _ hb, hrel⟩

theorem nonneg_duesOf : dueDrawing.Nonneg (duesOf s request loans) := by
  intro due hdue
  exact (pos_of_mem_duesOf hdue).2.2.le

theorem sum_amounts {left : ℚ} (hleft : 0 ≤ left)
    (h : List.Forall₂ (IsItemOf s) (sharesOf s request loans left) items) :
    (items.map LoanDeductionItem.amount).sum =
      min left ((duesOf s request loans).map Prod.snd).sum := by
  have hamounts : items.map LoanDeductionItem.amount =
      (sharesOf s request loans left).map Prod.snd := by
    generalize sharesOf s request loans left = shares at h
    induction h with
    | nil => rfl
    | @cons share item shares items hitem h ih =>
      obtain ⟨principalPortion, interestPortion, -, rfl⟩ := hitem
      rw [List.map_cons, List.map_cons, ih]
      rfl
  rw [hamounts, sharesOf, dueDrawing.sum_taken_eq_min nonneg_duesOf hleft]
  rfl

theorem share_of_mem {left : ℚ} {share : (Stored EmployeeLoan × ℚ) × ℚ} (hleft : AtScale 2 left)
    (hscale : ∀ row ∈ loans, AtScale 2 row.row.outstandingBalance)
    (h : share ∈ sharesOf s request loans left) :
    AtScale 2 share.2 ∧ 0 < share.2 ∧ share.1 ∈ duesOf s request loans := by
  have hdues : ∀ due ∈ duesOf s request loans, AtScale 2 due.2 ∧ 0 < due.2 := by
    intro due hdue
    obtain ⟨hrow, heq, hpos⟩ := pos_of_mem_duesOf hdue
    exact ⟨heq ▸ atScale_due (hscale due.1 hrow), hpos⟩
  rw [sharesOf] at h
  revert h
  generalize duesOf s request loans = dues at hdues ⊢
  intro h
  induction dues generalizing left with
  | nil => exact absurd h (by simp [Drawing.taken])
  | cons due dues ih =>
    rcases le_or_gt left 0 with hnone | hsome
    · rw [dueDrawing.taken_of_nonpos _ hnone] at h
      exact absurd h (by simp)
    · obtain ⟨hdue, hpos⟩ := hdues due List.mem_cons_self
      have hpart : AtScale 2 (min due.2 left) ∧ 0 < min due.2 left := by
        refine ⟨?_, lt_min hpos hsome⟩
        rcases min_choice due.2 left with hmin | hmin
        · rw [hmin]
          exact hdue
        · rw [hmin]
          exact hleft
      rw [dueDrawing.taken_cons _ _ hsome] at h
      rcases List.mem_cons.mp h with rfl | h
      · exact ⟨hpart.1, hpart.2, List.mem_cons_self⟩
      · obtain ⟨hshare, hsharePos, hmem⟩ := ih (hleft.sub hpart.1)
          (fun due hdue => hdues due (List.mem_cons_of_mem _ hdue)) h
        exact ⟨hshare, hsharePos, List.mem_cons_of_mem _ hmem⟩

/-- **The deductions keep the floor of the net pay if and only if** the cap holds and the shares
have portions that fit. -/
theorem keepsFloor_iff (hgross : request.grossPay = some grossPay) (hpos : 0 < grossPay)
    (hexisting : request.totalExistingDeductions ≤ deductionCap grossPay)
    (hscale : ∀ row ∈ loans, AtScale 2 row.row.monthlyInstallment ∧
      AtScale 2 row.row.outstandingBalance) (hitems : deductionsOf s request 0 loans = .ok items) :
    KeepsFloor s request grossPay loans items ↔
      CapHolds s request grossPay loans ∧
        ∀ share ∈ sharesOf s request loans (currency (request.leeway grossPay)),
          PortionsFit s share.1.1.row share.2 := by
  have hbalances : ∀ row ∈ loans, AtScale 2 row.row.outstandingBalance :=
    fun row hrow => (hscale row hrow).2
  have hleft : 0 ≤ currency (request.leeway grossPay) := halfUp_nonneg (sub_nonneg.mpr hexisting)
  have hshares := serves_taken (serves_of_deductionsOf hitems) hgross hpos hbalances
    (atScale_zero 2) le_rfl
  rw [sub_zero] at hshares
  have hportions : ∀ share ∈ sharesOf s request loans (currency (request.leeway grossPay)),
      ∀ item, IsItemOf s share item →
        (item.amount = item.principalPortion + item.interestPortion ∧
          (0 ≤ item.principalPortion ∧ 0 ≤ item.interestPortion ↔
            PortionsFit s share.1.1.row share.2)) := by
    intro share hshare item hitem
    obtain ⟨principalPortion, interestPortion, hsplit, rfl⟩ := hitem
    obtain ⟨hcents, hsome, -⟩ := share_of_mem (atScale_halfUp 2 _) hbalances hshare
    exact splitOf_eq_ok hcents hsome hsplit
  have hwithin : request.totalExistingDeductions + (items.map LoanDeductionItem.amount).sum ≤
      deductionCap grossPay ↔ CapHolds s request grossPay loans := by
    rw [sum_amounts hleft hshares, CapHolds, ← min_le_iff, ← le_sub_iff_add_le']
    rfl
  constructor
  · rintro ⟨hcap, rows, -, hserved⟩
    refine ⟨hwithin.mp hcap, fun share hshare => ?_⟩
    obtain ⟨item, hitem, hisItem⟩ := exists_of_forall₂ hshares hshare
    have hflipped : List.Forall₂ (flip ServesLoan) items rows := List.Forall₂.flip hserved
    obtain ⟨row, -, hserves⟩ := exists_of_forall₂ hflipped hitem
    exact (hportions share hshare item hisItem).2.mp ⟨hserves.principal, hserves.interest⟩
  · rintro ⟨hcap, hfits⟩
    refine ⟨hwithin.mpr hcap, (sharesOf s request loans
      (currency (request.leeway grossPay))).map fun share => share.1.1, ?_, ?_⟩
    · have hinitial := dueDrawing.taken_prefix (duesOf s request loans)
        (currency (request.leeway grossPay))
      have hrows := hinitial.map Prod.fst
      have howing : (duesOf s request loans).map Prod.fst =
          loans.filter fun row => Owes s request row := by
        rw [duesOf, List.map_map]
        exact List.map_id _
      rw [List.map_map, howing] at hrows
      exact hrows
    · rw [List.forall₂_map_left_iff]
      refine ((List.forall₂_and_left _ _).mpr ⟨fun share hshare => hshare, hshares⟩).imp ?_
      rintro share item ⟨hshare, hisItem⟩
      obtain ⟨hsum, hnonneg⟩ := hportions share hshare item hisItem
      obtain ⟨hprincipal, hinterest⟩ := hnonneg.mpr (hfits share hshare)
      obtain ⟨hcents, hsome, hdue⟩ := share_of_mem (atScale_halfUp 2 _) hbalances hshare
      obtain ⟨hrow, hdueEq, -⟩ := pos_of_mem_duesOf hdue
      have hle : share.2 ≤ share.1.1.row.due :=
        (dueDrawing.le_amount_of_mem_taken hshare).trans_eq hdueEq
      obtain ⟨principalPortion, interestPortion, -, rfl⟩ := hisItem
      refine ⟨rfl, hsome, hle.trans (min_le_right _ _), ?_, hsum, hprincipal, hinterest⟩
      refine (hle.trans (min_le_left _ _)).trans_eq ?_
      exact halfUp_of_atScale (hscale share.1.1 hrow).1

end Floor

/-! ### A gross in more than cents -/

def cappedSlip (grossPay : ℚ) : DeductionRequest where
  employeeId := 0
  periodStart := slipDay
  periodEnd := slipDay
  grossPay := some grossPay

def wholeLoan : Stored EmployeeLoan where
  id := 0
  row := {
    organizationId := 1
    loanNumber := "LOAN-2024-00001"
    employeeId := 0
    loanTypeId := none
    principalAmount := 500
    interestRate := 0
    totalInterest := 0
    totalRepayable := 500
    tenureMonths := 1
    monthlyInstallment := 500
    outstandingBalance := 500
    firstRepaymentDate := none
    status := .disbursed }

def takenFor (amount : ℚ) : LoanDeductionItem :=
  itemOf {} wholeLoan amount amount 0

theorem atScale_wholeLoan : ∀ row ∈ [wholeLoan], AtScale 2 row.row.monthlyInstallment ∧
    AtScale 2 row.row.outstandingBalance :=
  List.forall_mem_singleton.mpr
    ⟨⟨50000, by norm_num [wholeLoan]⟩, ⟨50000, by norm_num [wholeLoan]⟩⟩

theorem keepsFloor_iff_sample :
    KeepsFloor {} (cappedSlip 100) 100 [wholeLoan] [takenFor 67] := by
  refine (keepsFloor_iff rfl (by norm_num) (by decide +kernel) atScale_wholeLoan
    (by decide +kernel)).mpr
    ⟨.inl (by decide +kernel), ?_⟩
  have hfree : ∀ share ∈ sharesOf {} (cappedSlip 100) [wholeLoan]
      (currency ((cappedSlip 100).leeway 100)), share.1.1.row.interestRate = 0 := by
    decide +kernel
  exact fun share hshare hrate => absurd (hfree share hshare) hrate

/-- Of a gross of 100.005, what a third leaves is rounded up to 67.01. -/
theorem cap_rounded_up :
    ¬ ∀ (s : LoanStore) (request : DeductionRequest) (grossPay : ℚ)
      (loans : List (Stored EmployeeLoan)) (items : List LoanDeductionItem),
      request.grossPay = some grossPay → 0 < grossPay →
      request.totalExistingDeductions ≤ deductionCap grossPay →
      (∀ row ∈ loans, AtScale 2 row.row.monthlyInstallment ∧
        AtScale 2 row.row.outstandingBalance) →
      deductionsOf s request 0 loans = .ok items → KeepsFloor s request grossPay loans items := by
  intro h
  have hfloor := h {} (cappedSlip (100005 / 1000)) (100005 / 1000) [wholeLoan]
    [takenFor (6701 / 100)] rfl (by norm_num) (by decide +kernel) atScale_wholeLoan
    (by decide +kernel)
  exact absurd hfloor.within (by decide +kernel)

end DotmacErp.Payroll
