import DotmacErp.Foundation.Related
import DotmacErp.Foundation.SignificantDigits
import Mathlib.Algebra.Order.BigOperators.Group.List

/-!
# Deductions that exceed gross pay

When the counted deductions of a slip are more than its gross pay, the lines are cut until their sum
is the gross pay: first those that are not statutory, in proportion, then the statutory ones. The
cut of each line is rounded to the cent and never more than the line, but for the last line of a
group, which takes what remains. Many lines whose cuts are rounded down leave it more than it has,
and it becomes negative: the lines keep within their amounts exactly when the last line of each
group has what the rounded cuts of the others leave (`clampDeductionsToGross_iff`).

A share is a quotient and a product of 28 digits; sums of amounts are exact, within what the columns
hold.
-/

namespace DotmacErp.Payroll

open Related Rounding

/-! ### The clamp -/

structure CountedDeduction where
  componentCode : String
  amount : ℚ
  deriving DecidableEq

def statutoryComponentCodes : List String := ["PENSION", "NHF", "NHIS", "PAYE"]

def CountedDeduction.voluntary (line : CountedDeduction) : Bool :=
  line.componentCode ∉ statutoryComponentCodes

def groupTotal (group : List CountedDeduction) : ℚ := (group.map CountedDeduction.amount).sum

/-- The share of a line in what a group is reduced by, at most the line. -/
def shareOf (total reduceBy : ℚ) (line : CountedDeduction) : ℚ :=
  min (halfUp 2 (decimal (decimal (line.amount / total) * reduceBy))) line.amount

def CountedDeduction.less (cut : ℚ) (line : CountedDeduction) : CountedDeduction :=
  { line with amount := line.amount - cut }

def cutLines (total reduceBy : ℚ) : ℚ → List CountedDeduction → List CountedDeduction
  | _, [] => []
  | remaining, [last] => [last.less remaining]
  | remaining, line :: next :: rest =>
    let cut := min (shareOf total reduceBy line) remaining
    line.less cut :: cutLines total reduceBy (remaining - cut) (next :: rest)

def reduceGroup (excess : ℚ) (group : List CountedDeduction) : List CountedDeduction × ℚ :=
  if excess ≤ 0 ∨ groupTotal group ≤ 0 then (group, excess)
  else
    let reduceBy := min excess (groupTotal group)
    (cutLines (groupTotal group) reduceBy reduceBy group, excess - reduceBy)

structure ClampedSlip where
  voluntary : List CountedDeduction
  statutory : List CountedDeduction
  totalDeduction : ℚ
  netPay : ℚ

def clampDeductionsToGross (rows : List CountedDeduction) (grossPay totalDeduction : ℚ) :
    ClampedSlip :=
  let nonStatutory := rows.filter CountedDeduction.voluntary
  let statutory := rows.filter fun line => !line.voluntary
  if 0 ≤ grossPay - totalDeduction then
    ⟨nonStatutory, statutory, totalDeduction, grossPay - totalDeduction⟩
  else
    let first := reduceGroup (totalDeduction - grossPay) nonStatutory
    ⟨first.1, (reduceGroup first.2 statutory).1, min totalDeduction grossPay, 0⟩

/-! ### Cutting a group -/

variable {total reduceBy remaining excess : ℚ} {group : List CountedDeduction}

/-- Amounts in cents that are not negative. -/
def InCents (group : List CountedDeduction) : Prop :=
  ∀ line ∈ group, 0 ≤ line.amount ∧ AtScale 2 line.amount

/-- What the rounded shares of the other lines leave of a reduction is no more than the last line
has. -/
def LastCovers (total reduceBy remaining : ℚ) (group : List CountedDeduction) : Prop :=
  ∀ last ∈ group.getLast?,
    remaining - (group.dropLast.map (shareOf total reduceBy)).sum ≤ last.amount

instance : Decidable (LastCovers total reduceBy remaining group) :=
  inferInstanceAs (Decidable (∀ last ∈ group.getLast?, _ ≤ (_ : ℚ)))

/-- Each deduction is cut to between nothing and what it was. -/
def Within (before after : List CountedDeduction) : Prop :=
  List.Forall₂ (fun b a => 0 ≤ a.amount ∧ a.amount ≤ b.amount) before after

theorem groupTotal_nonneg (h : InCents group) : 0 ≤ groupTotal group :=
  List.sum_nonneg fun _ hq => by
    obtain ⟨line, hline, rfl⟩ := List.mem_map.mp hq
    exact (h line hline).1

theorem shareOf_mem_Icc (htotal : 0 < total) (hreduce : 0 ≤ reduceBy) {line : CountedDeduction}
    (h : 0 ≤ line.amount) :
    0 ≤ shareOf total reduceBy line ∧ shareOf total reduceBy line ≤ line.amount := by
  have hratio : 0 ≤ decimal (line.amount / total) :=
    significant_nonneg 28 (div_nonneg h htotal.le)
  exact ⟨le_min (halfUp_nonneg (significant_nonneg 28 (mul_nonneg hratio hreduce))) h,
    min_le_right _ _⟩

/-- **The cut of a group** takes exactly what it is reduced by. -/
theorem groupTotal_cutLines (hgroup : group ≠ []) :
    groupTotal (cutLines total reduceBy remaining group) = groupTotal group - remaining := by
  fun_induction cutLines total reduceBy remaining group with
  | case1 => exact absurd rfl hgroup
  | case2 remaining last => simp [groupTotal, CountedDeduction.less]
  | case3 remaining line next rest cut ih =>
    have hrest := ih (by simp)
    simp only [groupTotal, List.map_cons, List.sum_cons, CountedDeduction.less] at hrest ⊢
    linarith

/-- **The lines stay within their amounts** exactly when the last one has what is left for it. -/
theorem within_cutLines_iff (htotal : 0 < total) (hreduce : 0 ≤ reduceBy)
    (hremaining : 0 ≤ remaining) (h : InCents group) :
    Within group (cutLines total reduceBy remaining group) ↔
      LastCovers total reduceBy remaining group := by
  fun_induction cutLines total reduceBy remaining group with
  | case1 => exact ⟨fun _ last hlast => absurd hlast (by simp), fun _ => .nil⟩
  | case2 remaining last =>
    simp only [Within, LastCovers, List.forall₂_cons, List.forall₂_same, CountedDeduction.less,
      List.getLast?_singleton, List.dropLast_singleton, List.map_nil, List.sum_nil, sub_zero,
      Option.mem_some_iff, forall_eq']
    constructor
    · intro hwithin
      linarith [hwithin.1.1]
    · intro hcovers
      exact ⟨⟨by linarith, by linarith⟩, fun l hl => absurd hl (by simp)⟩
  | case3 remaining line next rest cut ih =>
    obtain ⟨hshare, hshare'⟩ := shareOf_mem_Icc htotal hreduce (h line (by simp)).1
    have hcut : cut = min (shareOf total reduceBy line) remaining := rfl
    have hbounds : 0 ≤ cut ∧ cut ≤ line.amount ∧ cut ≤ remaining := by
      rw [hcut]
      exact ⟨le_min hshare hremaining, (min_le_left _ _).trans hshare', min_le_right _ _⟩
    have hrest := ih (by linarith [hbounds.2.2]) fun l hl => h l (List.mem_cons_of_mem _ hl)
    rw [Within, List.forall₂_cons, ← Within, hrest]
    have hfirst : 0 ≤ (line.less cut).amount ∧ (line.less cut).amount ≤ line.amount :=
      ⟨sub_nonneg.mpr hbounds.2.1, sub_le_self _ hbounds.1⟩
    have hsame : LastCovers total reduceBy (remaining - cut) (next :: rest) ↔
        LastCovers total reduceBy remaining (line :: next :: rest) := by
      have hothers : 0 ≤ ((next :: rest).dropLast.map (shareOf total reduceBy)).sum := by
        refine List.sum_nonneg fun q hq => ?_
        obtain ⟨l, hl, rfl⟩ := List.mem_map.mp hq
        exact (shareOf_mem_Icc htotal hreduce
          (h l (List.mem_cons_of_mem _ (List.dropLast_subset _ hl))).1).1
      simp only [LastCovers, List.getLast?_cons_cons, List.dropLast_cons_cons, List.map_cons,
        List.sum_cons]
      refine forall₂_congr fun last hlast => ?_
      have hlast' := (h last (List.mem_cons_of_mem _ (List.mem_of_getLast? hlast))).1
      -- a share beyond what remains leaves nothing for the last line
      rcases le_total (shareOf total reduceBy line) remaining with hle' | hge
      · rw [hcut, min_eq_left hle']
        constructor <;> intro hq <;> linarith
      · rw [hcut, min_eq_right hge]
        constructor <;> intro _ <;> linarith
    rw [hsame]
    exact and_iff_right hfirst

/-! ### The groups of a slip -/

/-- The last of the group can bear what the rounded shares of the others leave of the cut. -/
def GroupFits (excess : ℚ) (group : List CountedDeduction) : Prop :=
  0 < excess → LastCovers (groupTotal group) (min excess (groupTotal group))
    (min excess (groupTotal group)) group

instance : Decidable (GroupFits excess group) := inferInstanceAs (Decidable (_ → _))

theorem within_self (h : InCents group) : Within group group :=
  List.forall₂_same.mpr fun line hline => ⟨(h line hline).1, le_refl line.amount⟩

theorem amount_eq_zero_of_groupTotal (hgroup : ∀ line ∈ group, 0 ≤ line.amount)
    (htotal : groupTotal group ≤ 0) {line : CountedDeduction} (hline : line ∈ group) :
    line.amount = 0 := by
  have hle : line.amount ≤ groupTotal group :=
    List.single_le_sum (fun q hq => by
      obtain ⟨l, hl, rfl⟩ := List.mem_map.mp hq
      exact hgroup l hl) _ (List.mem_map_of_mem hline)
  exact le_antisymm (hle.trans htotal) (hgroup line hline)

theorem reduceGroup_of_le (h : excess ≤ 0) : reduceGroup excess group = (group, excess) :=
  if_pos (Or.inl h)

/-- **A group is reduced** by the excess, as far as it has lines for it. -/
theorem reduceGroup_of_pos (hexcess : 0 < excess) (h : InCents group) :
    groupTotal (reduceGroup excess group).1 =
        groupTotal group - min excess (groupTotal group) ∧
      (reduceGroup excess group).2 = excess - min excess (groupTotal group) ∧
      (Within group (reduceGroup excess group).1 ↔ GroupFits excess group) := by
  have hnonneg := groupTotal_nonneg h
  by_cases htotal : groupTotal group ≤ 0
  · have hzero : groupTotal group = 0 := le_antisymm htotal hnonneg
    have hnothing : min excess (0 : ℚ) = 0 := min_eq_right hexcess.le
    have hfits : GroupFits excess group := by
      intro _ last hlast
      have hshares : (group.dropLast.map (shareOf 0 0)).sum = 0 := by
        refine List.sum_eq_zero fun q hq => ?_
        obtain ⟨line, hline, rfl⟩ := List.mem_map.mp hq
        rw [shareOf, mul_zero, decimal_zero, halfUp_zero]
        exact min_eq_left (h line (List.dropLast_subset _ hline)).1
      rw [hzero, hnothing, hshares, sub_zero]
      exact (h last (List.mem_of_getLast? hlast)).1
    rw [reduceGroup, if_pos (Or.inr htotal), hzero, hnothing, sub_zero, sub_zero]
    exact ⟨rfl, rfl, fun _ => hfits, fun _ => within_self h⟩
  · have hpos : 0 < groupTotal group := not_le.mp htotal
    have hgroup : group ≠ [] := by
      rintro rfl
      exact htotal le_rfl
    have hreduce : 0 ≤ min excess (groupTotal group) := le_min hexcess.le hnonneg
    rw [reduceGroup, if_neg (by rw [not_or]; exact ⟨not_le.mpr hexcess, htotal⟩)]
    refine ⟨groupTotal_cutLines hgroup, rfl, ?_⟩
    rw [within_cutLines_iff hpos hreduce hreduce h]
    exact ⟨fun hcovers _ => hcovers, fun hfits => hfits hexcess⟩

/-- What the clamp is to leave: lines within what they were that come to the smaller of the total
and the gross pay, the statutory ones as they were unless nothing is left of the others, and the net
pay as what remains. -/
structure IsClamped (rows : List CountedDeduction) (grossPay totalDeduction : ℚ)
    (slip : ClampedSlip) : Prop where
  sum : groupTotal slip.voluntary + groupTotal slip.statutory = min totalDeduction grossPay
  voluntary : Within (rows.filter CountedDeduction.voluntary) slip.voluntary
  statutory : Within (rows.filter fun line => !line.voluntary) slip.statutory
  spared : slip.statutory = (rows.filter fun line => !line.voluntary) ∨
    ∀ line ∈ slip.voluntary, line.amount = 0
  netPay : slip.netPay = grossPay - (groupTotal slip.voluntary + groupTotal slip.statutory)

/-- **The clamp does what it is for** exactly when the last line of each group has what the rounded
cuts of the others leave. -/
theorem clampDeductionsToGross_iff (rows : List CountedDeduction) (grossPay totalDeduction : ℚ)
    (hgross : 0 ≤ grossPay) (hrows : InCents rows) (htotal : totalDeduction = groupTotal rows) :
    IsClamped rows grossPay totalDeduction
        (clampDeductionsToGross rows grossPay totalDeduction) ↔
      GroupFits (totalDeduction - grossPay) (rows.filter CountedDeduction.voluntary) ∧
        GroupFits (totalDeduction - grossPay -
          groupTotal (rows.filter CountedDeduction.voluntary))
          (rows.filter fun line => !line.voluntary) := by
  set first := rows.filter CountedDeduction.voluntary with hfirst
  set second := rows.filter (fun line => !line.voluntary) with hsecond
  have hcents : InCents first ∧ InCents second :=
    ⟨fun line hline => hrows line (List.mem_filter.mp hline).1,
      fun line hline => hrows line (List.mem_filter.mp hline).1⟩
  have hsplit : groupTotal first + groupTotal second = totalDeduction := by
    rw [htotal, groupTotal, groupTotal, groupTotal, ← List.sum_append, ← List.map_append]
    exact ((List.filter_append_perm CountedDeduction.voluntary rows).map _).sum_eq
  have hfirst0 := groupTotal_nonneg hcents.1
  have hsecond0 := groupTotal_nonneg hcents.2
  by_cases hpays : 0 ≤ grossPay - totalDeduction
  · have hclamp : clampDeductionsToGross rows grossPay totalDeduction =
        ⟨first, second, totalDeduction, grossPay - totalDeduction⟩ := if_pos hpays
    rw [hclamp]
    refine iff_of_true ⟨?_, within_self hcents.1, within_self hcents.2, .inl rfl, ?_⟩ ⟨?_, ?_⟩
    · exact hsplit.trans (min_eq_left (by linarith)).symm
    · exact congrArg (grossPay - ·) hsplit.symm
    · exact fun hexcess => absurd hexcess (by linarith)
    · exact fun hexcess => absurd hexcess (by linarith)
  · have hexcess : 0 < totalDeduction - grossPay := by linarith [not_le.mp hpays]
    obtain ⟨hsum₁, hleft, hwithin₁⟩ := reduceGroup_of_pos hexcess hcents.1
    have hclamp : clampDeductionsToGross rows grossPay totalDeduction =
        ⟨(reduceGroup (totalDeduction - grossPay) first).1,
          (reduceGroup (reduceGroup (totalDeduction - grossPay) first).2 second).1,
          min totalDeduction grossPay, 0⟩ := if_neg hpays
    have hmin : min totalDeduction grossPay = grossPay := min_eq_right (by linarith)
    rw [hclamp, hleft]
    rcases le_or_gt (totalDeduction - grossPay) (groupTotal first) with hle | hgt
    · -- the lines that are not statutory have it all
      have hnone : ¬ 0 < totalDeduction - grossPay - groupTotal first := by linarith
      rw [min_eq_left hle] at hsum₁ ⊢
      rw [sub_self, reduceGroup_of_le le_rfl]
      constructor
      · intro h
        exact ⟨hwithin₁.mp h.voluntary, fun hpos => absurd hpos hnone⟩
      · intro h
        have hparts : groupTotal (reduceGroup (totalDeduction - grossPay) first).1 +
            groupTotal second = grossPay := by linarith
        exact ⟨hparts.trans hmin.symm, hwithin₁.mpr h.1, within_self hcents.2, .inl rfl,
          (sub_eq_zero.mpr hparts.symm).symm⟩
    · have hrest : 0 < totalDeduction - grossPay - groupTotal first := sub_pos.mpr hgt
      obtain ⟨hsum₂, -, hwithin₂⟩ := reduceGroup_of_pos hrest hcents.2
      rw [min_eq_left (by linarith)] at hsum₂
      rw [min_eq_right hgt.le] at hsum₁ ⊢
      constructor
      · intro h
        exact ⟨hwithin₁.mp h.voluntary, hwithin₂.mp h.statutory⟩
      · intro h
        have hkept := hwithin₁.mpr h.1
        have hparts : groupTotal (reduceGroup (totalDeduction - grossPay) first).1 +
            groupTotal (reduceGroup (totalDeduction - grossPay - groupTotal first) second).1 =
              grossPay := by linarith
        refine ⟨hparts.trans hmin.symm, hkept, hwithin₂.mpr h.2, .inr fun line hline => ?_,
          (sub_eq_zero.mpr hparts.symm).symm⟩
        refine amount_eq_zero_of_groupTotal (fun l hl => ?_) (by linarith) hline
        obtain ⟨b, -, hb⟩ := exists_of_forall₂ hkept hl
        exact hb.1

/-- A loan, a tax and a union fee. -/
def threeDeductions : List CountedDeduction :=
  [⟨"LOAN_REPAYMENT", 90⟩, ⟨"PAYE", 40⟩, ⟨"UNION", 30⟩]

theorem clampDeductionsToGross_iff_sample :
    IsClamped threeDeductions 100 160 (clampDeductionsToGross threeDeductions 100 160) := by
  have hcents : InCents threeDeductions := by
    intro line hline
    simp only [threeDeductions, List.mem_cons, List.not_mem_nil, or_false] at hline
    rcases hline with rfl | rfl | rfl
    · exact ⟨by norm_num, 9000, by norm_num⟩
    · exact ⟨by norm_num, 4000, by norm_num⟩
    · exact ⟨by norm_num, 3000, by norm_num⟩
  exact (clampDeductionsToGross_iff threeDeductions 100 160 (by norm_num) hcents
    (by decide +kernel)).mpr ⟨by decide +kernel, by decide +kernel⟩

def fiveCents : List CountedDeduction := List.replicate 5 ⟨"UNION", 1 / 100⟩

/-- **Five cents cannot be cut by two**: no share is rounded up to a cent, and the last line is
charged with both. -/
theorem last_line_negative :
    ¬ ∀ rows grossPay totalDeduction, 0 ≤ grossPay → InCents rows →
      totalDeduction = groupTotal rows →
      IsClamped rows grossPay totalDeduction
        (clampDeductionsToGross rows grossPay totalDeduction) := by
  intro h
  have hcents : InCents fiveCents := by
    intro line hline
    rw [List.eq_of_mem_replicate hline]
    exact ⟨by norm_num, 1, by norm_num⟩
  have hclamped := h fiveCents (3 / 100) (5 / 100) (by norm_num) hcents (by decide +kernel)
  have hlast : (⟨"UNION", -(1 / 100)⟩ : CountedDeduction) ∈
      (clampDeductionsToGross fiveCents (3 / 100) (5 / 100)).voluntary := by decide +kernel
  obtain ⟨b, -, hb⟩ := exists_of_forall₂ hclamped.voluntary hlast
  exact absurd hb.1 (by norm_num)

end DotmacErp.Payroll
