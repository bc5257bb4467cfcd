import Mathlib.Algebra.BigOperators.Group.List.Basic
import Mathlib.Algebra.Order.BigOperators.Group.List
import Mathlib.Algebra.Order.Field.Basic
import Mathlib.Tactic.Linarith
import Mathlib.Tactic.Ring

/-!
# Drawing from a list of stocks

A quantity is drawn from stocks in their order: each stock gives what it has, or what is still
wanted of it, and the drawing stops when nothing is wanted any more (`Drawing.leave` is what the
stocks are afterwards, `Drawing.taken` what was taken from which).

The stocks before the last one touched are exhausted and the stocks after it are as they were
(`Drawing.leave_eq`). What is valued at a price of its own in each stock is taken away or left
(`Drawing.cost_taken_add`). To draw one quantity and then another is to draw their sum
(`Drawing.leave_leave`), whether or not the stocks exhausted by the first are still on the list
(`Drawing.stocked_leave_stocked`).
-/

/-- What can be drawn from: how much there is of a stock, and the stock after something is taken
from it. What is taken in two turns is taken in one. -/
structure Drawing (α K : Type*) [Field K] [LinearOrder K] where
  amount : α → K
  take : K → α → α
  amount_take : ∀ q x, amount (take q x) = amount x - q
  take_take : ∀ a b x, 0 ≤ b → take b (take a x) = take (a + b) x

namespace Drawing

variable {α K : Type*} [Field K] [LinearOrder K] [IsStrictOrderedRing K]
variable (D : Drawing α K) {xs : List α} {q a b : K}

/-- The stocks after a quantity is drawn from them. -/
def leave : List α → K → List α
  | [], _ => []
  | x :: xs, q =>
    if q ≤ 0 then x :: xs
    else D.take (min (D.amount x) q) x :: leave xs (q - min (D.amount x) q)

def taken : List α → K → List (α × K)
  | [], _ => []
  | x :: xs, q =>
    if q ≤ 0 then []
    else (x, min (D.amount x) q) :: taken xs (q - min (D.amount x) q)

/-- How much there is in all stocks. -/
def total (xs : List α) : K := (xs.map D.amount).sum

def stocked (xs : List α) : List α := xs.filter fun x => 0 < D.amount x

/-- No stock is short of anything. -/
def Nonneg (xs : List α) : Prop := ∀ x ∈ xs, 0 ≤ D.amount x

omit [IsStrictOrderedRing K] in
@[simp] theorem total_cons (x : α) (xs : List α) :
    D.total (x :: xs) = D.amount x + D.total xs := by
  rw [total, List.map_cons, List.sum_cons, ← total]

omit [IsStrictOrderedRing K] in
theorem leave_of_nonpos (xs : List α) (h : q ≤ 0) : D.leave xs q = xs := by
  cases xs with
  | nil => rw [leave]
  | cons x xs => rw [leave, if_pos h]

omit [IsStrictOrderedRing K] in
theorem leave_cons (x : α) (xs : List α) (h : 0 < q) :
    D.leave (x :: xs) q =
      D.take (min (D.amount x) q) x :: D.leave xs (q - min (D.amount x) q) := by
  rw [leave, if_neg (not_le.mpr h)]

omit [IsStrictOrderedRing K] in
theorem taken_of_nonpos (xs : List α) (h : q ≤ 0) : D.taken xs q = [] := by
  cases xs with
  | nil => rw [taken]
  | cons x xs => rw [taken, if_pos h]

omit [IsStrictOrderedRing K] in
theorem taken_cons (x : α) (xs : List α) (h : 0 < q) :
    D.taken (x :: xs) q =
      (x, min (D.amount x) q) :: D.taken xs (q - min (D.amount x) q) := by
  rw [taken, if_neg (not_le.mpr h)]

omit [IsStrictOrderedRing K] in
theorem Nonneg.tail {x : α} (h : D.Nonneg (x :: xs)) : D.Nonneg xs :=
  fun y hy => h y (List.mem_cons_of_mem x hy)

theorem Nonneg.total_nonneg (h : D.Nonneg xs) : 0 ≤ D.total xs := by
  refine List.sum_nonneg fun c hc => ?_
  obtain ⟨x, hx, rfl⟩ := List.mem_map.mp hc
  exact h x hx

theorem Nonneg.leave (h : D.Nonneg xs) (q : K) : D.Nonneg (D.leave xs q) := by
  induction xs generalizing q with
  | nil =>
    rw [Drawing.leave]
    exact h
  | cons x xs ih =>
    rcases le_or_gt q 0 with hq | hq
    · rw [D.leave_of_nonpos _ hq]
      exact h
    · rw [D.leave_cons x xs hq]
      intro y hy
      rcases List.mem_cons.mp hy with rfl | hy
      · rw [D.amount_take]
        exact sub_nonneg.mpr (min_le_left _ _)
      · exact ih (Nonneg.tail D h) _ y hy

/-! ### How much is taken, and from which stocks -/

theorem sum_taken_eq_min (h : D.Nonneg xs) (hq : 0 ≤ q) :
    ((D.taken xs q).map Prod.snd).sum = min q (D.total xs) := by
  induction xs generalizing q with
  | nil =>
    rw [taken, List.map_nil, List.sum_nil]
    exact (min_eq_right hq).symm
  | cons x xs ih =>
    have hrest := Nonneg.total_nonneg D (Nonneg.tail D h)
    have hx : 0 ≤ D.amount x := h x List.mem_cons_self
    rcases hq.eq_or_lt with rfl | hq
    · rw [D.taken_of_nonpos _ le_rfl, List.map_nil, List.sum_nil, D.total_cons,
        min_eq_left (add_nonneg hx hrest)]
    · rw [D.taken_cons x xs hq, List.map_cons, List.sum_cons,
        ih (Nonneg.tail D h) (sub_nonneg.mpr (min_le_right _ _)), D.total_cons]
      rcases le_total q (D.amount x) with hle | hle
      · rw [min_eq_right hle, sub_self, min_eq_left hrest, min_eq_left (by linarith), add_zero]
      · rw [min_eq_left hle, ← min_add_add_left, add_sub_cancel]

theorem sum_taken (h : D.Nonneg xs) (hq : 0 ≤ q) (hle : q ≤ D.total xs) :
    ((D.taken xs q).map Prod.snd).sum = q := by
  rw [D.sum_taken_eq_min h hq, min_eq_left hle]

omit [IsStrictOrderedRing K] in
theorem taken_prefix (xs : List α) (q : K) : (D.taken xs q).map Prod.fst <+: xs := by
  induction xs generalizing q with
  | nil => exact List.nil_prefix
  | cons x xs ih =>
    rcases le_or_gt q 0 with hq | hq
    · rw [D.taken_of_nonpos _ hq]
      exact List.nil_prefix
    · rw [D.taken_cons x xs hq, List.map_cons]
      exact (List.prefix_cons_inj x).mpr (ih _)

omit [IsStrictOrderedRing K] in
theorem le_amount_of_mem_taken {pair : α × K} (h : pair ∈ D.taken xs q) :
    pair.2 ≤ D.amount pair.1 := by
  induction xs generalizing q with
  | nil => exact absurd h (by simp [taken])
  | cons x xs ih =>
    rcases le_or_gt q 0 with hq | hq
    · rw [D.taken_of_nonpos _ hq] at h
      exact absurd h (by simp)
    · rw [D.taken_cons x xs hq] at h
      rcases List.mem_cons.mp h with rfl | h
      · exact min_le_left _ _
      · exact ih h

def cost (p : α → K) (pairs : List (α × K)) : K :=
  (pairs.map fun pair => pair.2 * p pair.1).sum

def worth (p : α → K) (xs : List α) : K := (xs.map fun x => D.amount x * p x).sum

omit [IsStrictOrderedRing K] in
@[simp] theorem worth_cons (p : α → K) (x : α) (xs : List α) :
    D.worth p (x :: xs) = D.amount x * p x + D.worth p xs := by
  rw [worth, List.map_cons, List.sum_cons, ← worth]

omit [IsStrictOrderedRing K] in
theorem cost_taken_add {p : α → K} (hprice : ∀ q x, p (D.take q x) = p x) (xs : List α) (q : K) :
    cost p (D.taken xs q) + D.worth p (D.leave xs q) = D.worth p xs := by
  induction xs generalizing q with
  | nil =>
    rw [taken, leave]
    exact zero_add _
  | cons x xs ih =>
    rcases le_or_gt q 0 with hq | hq
    · rw [D.taken_of_nonpos _ hq, D.leave_of_nonpos _ hq]
      exact zero_add _
    · have hrest := ih (q - min (D.amount x) q)
      rw [D.taken_cons x xs hq, D.leave_cons x xs hq, D.worth_cons, D.worth_cons, D.amount_take,
        hprice, cost, List.map_cons, List.sum_cons, ← hrest, cost]
      ring

theorem total_leave (h : D.Nonneg xs) (hq : 0 ≤ q) (hle : q ≤ D.total xs) :
    D.total (D.leave xs q) = D.total xs - q := by
  have hsum : cost (fun _ => 1) (D.taken xs q) = q := by
    simp only [cost, mul_one]
    exact D.sum_taken h hq hle
  have hkept := D.cost_taken_add (fun _ _ => rfl) xs q (p := fun _ => 1)
  simp only [worth, mul_one] at hkept
  rw [total, total, ← hkept, hsum, add_sub_cancel_left]

/-- The drawing goes through the stocks in their order: those before the last one touched are
exhausted, those after it are as they were. -/
theorem leave_eq (h : ∀ x ∈ xs, 0 < D.amount x) (hq : 0 < q) (hle : q ≤ D.total xs) :
    ∃ older touched newer part, xs = older ++ touched :: newer ∧
      0 < part ∧ part ≤ D.amount touched ∧
      D.leave xs q =
        older.map (fun x => D.take (D.amount x) x) ++ D.take part touched :: newer ∧
      D.taken xs q = older.map (fun x => (x, D.amount x)) ++ [(touched, part)] := by
  induction xs generalizing q with
  | nil => exact absurd hle (not_le.mpr hq)
  | cons x xs ih =>
    rw [D.leave_cons x xs hq, D.taken_cons x xs hq]
    rcases le_or_gt q (D.amount x) with hx | hx
    · -- the quantity ends in this stock
      refine ⟨[], x, xs, q, rfl, hq, hx, ?_, ?_⟩
      · rw [min_eq_right hx, sub_self, D.leave_of_nonpos _ le_rfl]
        rfl
      · rw [min_eq_right hx, sub_self, D.taken_of_nonpos _ le_rfl]
        rfl
    · have hrest : q - D.amount x ≤ D.total xs := by
        rw [D.total_cons] at hle
        linarith
      obtain ⟨older, touched, newer, part, hxs, hpos, hpart, hleave, htaken⟩ :=
        ih (fun y hy => h y (List.mem_cons_of_mem x hy)) (sub_pos.mpr hx) hrest
      refine ⟨x :: older, touched, newer, part, ?_, hpos, hpart, ?_, ?_⟩
      · rw [hxs]
        rfl
      · rw [min_eq_left hx.le, hleave]
        rfl
      · rw [min_eq_left hx.le, htaken]
        rfl

/-! ### One quantity and then another -/

theorem min_add_min_sub {c : K} (hb : 0 ≤ b) :
    min c a + min (c - min c a) b = min c (a + b) := by
  rcases le_total c a with hca | hca
  · rw [min_eq_left hca, sub_self, min_eq_left hb, min_eq_left (by linarith), add_zero]
  · rw [min_eq_right hca]
    rcases le_total (c - a) b with hcb | hcb
    · rw [min_eq_left hcb, min_eq_left (by linarith), add_sub_cancel]
    · rw [min_eq_right hcb, min_eq_right (by linarith)]

/-- **To draw one quantity and then another is to draw their sum.** -/
theorem leave_leave (h : D.Nonneg xs) (ha : 0 ≤ a) (hb : 0 ≤ b) :
    D.leave (D.leave xs a) b = D.leave xs (a + b) := by
  induction xs generalizing a b with
  | nil => rw [leave, leave, leave]
  | cons x xs ih =>
    rcases ha.eq_or_lt with rfl | ha
    · rw [D.leave_of_nonpos _ le_rfl, zero_add]
    · rcases hb.eq_or_lt with rfl | hb
      · rw [D.leave_of_nonpos _ le_rfl, add_zero]
      · have hstock := min_add_min_sub (a := a) (c := D.amount x) hb.le
        have hsecond : 0 ≤ min (D.amount x - min (D.amount x) a) b :=
          le_min (sub_nonneg.mpr (min_le_left _ _)) hb.le
        rw [D.leave_cons x xs ha, D.leave_cons _ _ hb, D.leave_cons x xs (add_pos ha hb),
          D.amount_take, D.take_take _ _ _ hsecond, hstock,
          ih (Nonneg.tail D h) (sub_nonneg.mpr (min_le_right _ _))
            (sub_nonneg.mpr (min_le_right _ _)),
          ← hstock]
        congr 2
        ring

omit [IsStrictOrderedRing K] in
theorem stocked_cons_of_pos {x : α} (hx : 0 < D.amount x) :
    D.stocked (x :: xs) = x :: D.stocked xs := by
  rw [stocked, List.filter_cons_of_pos (by simpa using hx), ← stocked]

omit [IsStrictOrderedRing K] in
theorem stocked_cons_of_nonpos {x : α} (hx : D.amount x ≤ 0) :
    D.stocked (x :: xs) = D.stocked xs := by
  rw [stocked, List.filter_cons_of_neg (by simpa using hx), ← stocked]

omit [IsStrictOrderedRing K] in
theorem worth_stocked (h : D.Nonneg xs) (p : α → K) :
    D.worth p (D.stocked xs) = D.worth p xs := by
  induction xs with
  | nil => rfl
  | cons x xs ih =>
    rcases (h x List.mem_cons_self).eq_or_lt with hx | hx
    · rw [D.stocked_cons_of_nonpos hx.ge, D.worth_cons, ← hx, ih (Nonneg.tail D h), zero_mul,
        zero_add]
    · rw [D.stocked_cons_of_pos hx, D.worth_cons, D.worth_cons, ih (Nonneg.tail D h)]

omit [IsStrictOrderedRing K] in
theorem total_stocked (h : D.Nonneg xs) : D.total (D.stocked xs) = D.total xs := by
  have hworth := D.worth_stocked h fun _ => 1
  simp only [worth, mul_one] at hworth
  exact hworth

omit [IsStrictOrderedRing K] in
theorem stocked_leave_stocked (h : D.Nonneg xs) (q : K) :
    D.stocked (D.leave (D.stocked xs) q) = D.stocked (D.leave xs q) := by
  induction xs generalizing q with
  | nil => rfl
  | cons x xs ih =>
    rcases le_or_gt q 0 with hq | hq
    · rw [D.leave_of_nonpos _ hq, D.leave_of_nonpos _ hq, stocked, stocked, List.filter_filter]
      simp only [Bool.and_self]
    rcases (h x List.mem_cons_self).eq_or_lt with hx | hx
    · have hnothing : min (D.amount x) q = 0 := by rw [← hx, min_eq_left hq.le]
      rw [D.stocked_cons_of_nonpos hx.ge, D.leave_cons x xs hq, hnothing, sub_zero,
        D.stocked_cons_of_nonpos (x := D.take 0 x) (by rw [D.amount_take, ← hx, sub_zero])]
      exact ih (Nonneg.tail D h) q
    · rw [D.stocked_cons_of_pos hx, D.leave_cons _ _ hq, D.leave_cons _ _ hq]
      rcases le_or_gt (D.amount (D.take (min (D.amount x) q) x)) 0 with hleft | hleft
      · rw [D.stocked_cons_of_nonpos hleft, D.stocked_cons_of_nonpos hleft]
        exact ih (Nonneg.tail D h) _
      · rw [D.stocked_cons_of_pos hleft, D.stocked_cons_of_pos hleft, ih (Nonneg.tail D h)]

end Drawing
