import DotmacErp.Consolidation.Intercompany
import DotmacErp.Foundation.Selections

/-!
# What matching leaves

Matching writes to a balance when its turn comes, and again when its reciprocal's does. Both times
it writes whether the two net to nothing, so that after the loop a balance is marked as matched when
it, or its reciprocal, is from an active entity of the group, and the two net to nothing
(`performMatching_eq_ok`). Everything else about a balance stays.
-/

namespace DotmacErp.Consolidation

open Relational Session Table IntercompanyService

variable {s s' : ConsolidationStore} {t : Table IntercompanyBalance} {tolerance : ℚ}
  {groupId periodId : UUID}

/-! ### Recorded balances -/

def IntercompanyBalance.terms (b : IntercompanyBalance) : IntercompanyBalance :=
  { b with
    isMatched := false
    differenceAmount := 0
    differenceReason := none
    isEliminated := false
    eliminationEntryId := none }

structure WellPaired (t : Table IntercompanyBalance) : Prop where
  keyed : t.Keyed IntercompanyBalance.identity
  distinct : t.All fun b => b.fromEntityId ≠ b.toEntityId

def Nets (t : Table IntercompanyBalance) (tolerance : ℚ) (b : IntercompanyBalance) : Prop :=
  (matchOutcome tolerance b (reciprocal t b)).isMatched = true

instance (t : Table IntercompanyBalance) (tolerance : ℚ) :
    DecidablePred (Nets t tolerance) := fun _ => inferInstanceAs (Decidable (_ = _))

section Terms

variable {b b' q q' : IntercompanyBalance}

theorem of_terms_eq {α : Type} (h : b.terms = b'.terms) (view : IntercompanyBalance → α)
    (hview : ∀ b, view b = view b.terms := by exact fun _ => rfl) : view b = view b' := by
  rw [hview b, hview b', h]

theorem pairKey_eq_of_terms (h : b.terms = b'.terms) : b.pairKey = b'.pairKey :=
  of_terms_eq h IntercompanyBalance.pairKey

theorem isReciprocal_iff_of_terms (hq : q.terms = q'.terms) :
    IsReciprocal b q ↔ IsReciprocal b q' :=
  iff_of_eq (congrArg (IsReciprocal b) hq : IsReciprocal b q.terms = IsReciprocal b q'.terms)

theorem IntercompanyService.IsReciprocal.symm (h : IsReciprocal b q) : IsReciprocal q b :=
  ⟨h.1.symm, h.2.2.1.symm, h.2.1.symm, h.2.2.2.symm⟩

theorem IntercompanyService.IsReciprocal.pairKey_eq (h : IsReciprocal b q) :
    q.pairKey = b.pairKey := by
  rw [IntercompanyBalance.pairKey, IntercompanyBalance.pairKey, h.2.1, h.2.2.1, min_comm, max_comm]

theorem IntercompanyService.IsReciprocal.identity_eq (h : IsReciprocal b q) (h' :
    IsReciprocal b q') :
    q.identity = q'.identity := by
  simp only [IntercompanyBalance.identity, h.1, h.2.1, h.2.2.1, h.2.2.2, h'.1, h'.2.1, h'.2.2.1,
    h'.2.2.2]

end Terms

theorem WellPaired.reciprocal_eq_some (h : WellPaired t) {b q : IntercompanyBalance} {k : UUID}
    (hq : t.get? k = some q) (hreciprocal : IsReciprocal b q) : reciprocal t b = some ⟨k, q⟩ :=
  h.keyed.find?_eq hq (decide_eq_true hreciprocal) fun _ hb' =>
    (of_decide_eq_true hb').identity_eq hreciprocal

theorem isReciprocal_of_reciprocal {b : IntercompanyBalance} {r : Stored IntercompanyBalance}
    (h : reciprocal t b = some r) : t.get? r.id = some r.row ∧ IsReciprocal b r.row :=
  ⟨(find?_eq_some h).1, of_decide_eq_true (find?_eq_some h).2⟩

theorem nets_iff {b : IntercompanyBalance} : Nets t tolerance b ↔
    ∃ r, reciprocal t b = some r ∧
      |b.reportingCurrencyAmount + r.row.reportingCurrencyAmount| ≤ tolerance := by
  rw [Nets]
  cases hfind : reciprocal t b with
  | none => simp [matchOutcome]
  | some r =>
    by_cases hle : |b.reportingCurrencyAmount + r.row.reportingCurrencyAmount| ≤ tolerance <;>
      simp [matchOutcome, hle]

theorem WellPaired.nets_reciprocal (h : WellPaired t) {b q : IntercompanyBalance} {j k : UUID}
    (hb : t.get? j = some b) (hq : t.get? k = some q) (hreciprocal : IsReciprocal b q) :
    Nets t tolerance q ↔ Nets t tolerance b := by
  rw [nets_iff, nets_iff, h.reciprocal_eq_some hq hreciprocal,
    h.reciprocal_eq_some hb hreciprocal.symm]
  simp [add_comm]

/-! ### The loop -/

def Touched (l : List (Stored IntercompanyBalance)) (r : Stored IntercompanyBalance) : Prop :=
  ∃ x ∈ l, x.id = r.id ∨ IsReciprocal x.row r.row

def MatchedIn (tolerance : ℚ) (t : Table IntercompanyBalance)
    (l : List (Stored IntercompanyBalance)) (t' : Table IntercompanyBalance) : Prop :=
  ∃ f : Stored IntercompanyBalance → IntercompanyBalance, t' = t.mapRows f ∧ ∀ r ∈ t.rows,
    (f r).terms = r.row.terms ∧ (f r).isEliminated = r.row.isEliminated ∧
      (Touched l r → ((f r).isMatched = true ↔ Nets t tolerance r.row)) ∧
      (¬ Touched l r → (f r).isMatched = r.row.isMatched)

theorem reciprocal_mapRows {f : Stored IntercompanyBalance → IntercompanyBalance}
    (hf : ∀ r ∈ t.rows, (f r).terms = r.row.terms) (b : IntercompanyBalance) :
    reciprocal (t.mapRows f) b = (reciprocal t b).map fun r => ⟨r.id, f r⟩ :=
  find?_mapRows fun r hr => decide_eq_decide.mpr (isReciprocal_iff_of_terms (hf r hr))

theorem matchOutcome_mapRows {f : Stored IntercompanyBalance → IntercompanyBalance}
    (hf : ∀ r ∈ t.rows, (f r).terms = r.row.terms) (b : IntercompanyBalance) :
    (matchOutcome tolerance b (reciprocal (t.mapRows f) b)).isMatched = true ↔
      Nets t tolerance b := by
  rw [reciprocal_mapRows hf, Nets]
  cases hfind : reciprocal t b with
  | none => rfl
  | some r =>
    have hterms := hf r (get?_eq_some.mp (isReciprocal_of_reciprocal hfind).1)
    have hamount : (f r).reportingCurrencyAmount = r.row.reportingCurrencyAmount :=
      of_terms_eq hterms IntercompanyBalance.reportingCurrencyAmount
    simp only [Option.map_some, matchOutcome, hamount]
    split_ifs <;> rfl

/-- **One turn**: the balance and its reciprocal are matched. -/
theorem WellPaired.matchBalance (h : WellPaired t) {l : List (Stored IntercompanyBalance)}
    {t' : Table IntercompanyBalance} (hmatched : MatchedIn tolerance t l t')
    {x : Stored IntercompanyBalance} (hx : x ∈ t.rows) :
    MatchedIn tolerance t (l ++ [x]) (matchBalance tolerance t' x) := by
  obtain ⟨f, rfl, hf⟩ := hmatched
  have hterms : ∀ r ∈ t.rows, (f r).terms = r.row.terms := fun r hr => (hf r hr).1
  set outcome := matchOutcome tolerance x.row (reciprocal (t.mapRows f) x.row) with houtcome
  have hnets :
    outcome.isMatched = true ↔ Nets t tolerance x.row := matchOutcome_mapRows hterms x.row
  have htable : IntercompanyService.matchBalance tolerance (t.mapRows f) x = t.mapRows fun r =>
      if r.id = x.id ∨ IsReciprocal x.row r.row then outcome.write (f r) else f r := by
    have hfound := reciprocal_mapRows hterms x.row
    cases hfind : reciprocal t x.row with
    | none =>
      rw [hfind] at hfound
      rw [IntercompanyService.matchBalance, ← houtcome, hfound, Option.map_none, modify_eq_mapRows,
        mapRows_mapRows]
      refine mapRows_congr fun r hr => ?_
      have hnone : ¬ IsReciprocal x.row r.row :=
        of_decide_eq_false (find?_eq_none.mp hfind r.id r.row (get?_of_mem hr))
      simp only [hnone, or_false]
    | some q =>
      obtain ⟨hget, hq⟩ := isReciprocal_of_reciprocal hfind
      rw [hfind] at hfound
      rw [IntercompanyService.matchBalance, ← houtcome, hfound, Option.map_some]
      simp only [modify_eq_mapRows, mapRows_mapRows]
      refine mapRows_congr fun r hr => ?_
      have hiff : IsReciprocal x.row r.row ↔ r.id = q.id := by
        refine ⟨fun hr' => ?_, fun hid => ?_⟩
        · exact h.keyed (get?_of_mem hr) hget (hr'.identity_eq hq)
        · rw [← hid, get?_of_mem hr] at hget
          exact Option.some.inj hget ▸ hq
      by_cases hqid : r.id = q.id
      · rw [if_pos hqid, if_pos (Or.inr (hiff.mpr hqid))]
        -- written once or twice
        split_ifs <;> rfl
      · rw [if_neg hqid]
        simp only [hiff, hqid, or_false]
  have htouched : ∀ r, Touched (l ++ [x]) r ↔
      Touched l r ∨ (r.id = x.id ∨ IsReciprocal x.row r.row) := by
    intro r
    simp [Touched, or_and_right, exists_or, eq_comm]
  refine ⟨_, htable, fun r hr => ?_⟩
  by_cases hnow : r.id = x.id ∨ IsReciprocal x.row r.row
  · have hsame : Nets t tolerance r.row ↔ Nets t tolerance x.row := by
      rcases hnow with hid | hreciprocal
      · have hget := get?_of_mem hx
        rw [← hid, get?_of_mem hr] at hget
        rw [Option.some.inj hget]
      · exact h.nets_reciprocal (get?_of_mem hx) (get?_of_mem hr) hreciprocal
    rw [if_pos hnow]
    exact ⟨(hf r hr).1, (hf r hr).2.1, fun _ => hnets.trans hsame.symm,
      fun hnot => absurd ((htouched r).mpr (.inr hnow)) hnot⟩
  · rw [if_neg hnow]
    have hbefore : Touched (l ++ [x]) r ↔ Touched l r := by
      rw [htouched, or_iff_left hnow]
    rw [hbefore]
    exact hf r hr

/-- **The whole loop.** -/
theorem WellPaired.foldl_matchBalance (h : WellPaired t) (tolerance : ℚ)
    {l : List (Stored IntercompanyBalance)} (hl : ∀ x ∈ l, x ∈ t.rows) :
    MatchedIn tolerance t l (l.foldl (IntercompanyService.matchBalance tolerance) t) := by
  induction l using List.reverseRecOn with
  | nil =>
    refine ⟨Stored.row, mapRows_row.symm, fun r _ => ⟨rfl, rfl, ?_, fun _ => rfl⟩⟩
    rintro ⟨x, hx, -⟩
    exact absurd hx List.not_mem_nil
  | append_singleton l x ih =>
    rw [List.foldl_append]
    exact h.matchBalance (ih fun y hy => hl y (List.mem_append_left _ hy))
      (hl x (List.mem_append_right _ List.mem_cons_self))

/-! ### The call -/

def Matches (s : ConsolidationStore) (groupId : UUID) (tolerance : ℚ) (b : IntercompanyBalance) :
    Prop :=
  Nets s.balances tolerance b ∧ ((s.activeEntity groupId b.fromEntityId).isSome ∨
    (s.activeEntity groupId b.toEntityId).isSome)

instance (s : ConsolidationStore) (groupId : UUID) (tolerance : ℚ) :
    DecidablePred (Matches s groupId tolerance) := fun _ => inferInstanceAs (Decidable (_ ∧ _))

theorem mem_balancesOf {r : Stored IntercompanyBalance} : r ∈ balancesOf s groupId periodId ↔
    r ∈ s.balances.rows ∧ r.row.fiscalPeriodId = periodId ∧
      (s.activeEntity groupId r.row.fromEntityId).isSome := by
  rw [balancesOf, mem_select, get?_eq_some]
  simp

/-- **Matching** a period in which nothing is matched yet marks the balances that net to nothing
with their reciprocals, where one of the two entities is active in the group. -/
theorem performMatching_eq_ok (h : WellPaired s.balances)
    (hunmatched : ∀ r ∈ s.balances.rows, r.row.fiscalPeriodId = periodId → r.row.isMatched = false)
    {results : List MatchingResult}
    (hmatching : performMatching groupId periodId tolerance s = .ok results s') :
    ∃ f : Stored IntercompanyBalance → IntercompanyBalance,
      s' = { s with balances := s.balances.mapRows f } ∧ ∀ r ∈ s.balances.rows,
        (f r).terms = r.row.terms ∧ (f r).isEliminated = r.row.isEliminated ∧
          (r.row.fiscalPeriodId = periodId →
            ((f r).isMatched = true ↔ Matches s groupId tolerance r.row)) := by
  rw [performMatching, get_bind] at hmatching
  obtain ⟨_, s₁, hset, hpure⟩ := bind_eq_ok.mp hmatching
  obtain ⟨-, rfl⟩ := pure_eq_ok.mp hpure
  obtain ⟨f, hf, hrows⟩ := h.foldl_matchBalance tolerance
    (l := balancesOf s groupId periodId) fun x hx => (mem_balancesOf.mp hx).1
  refine ⟨f, (set_eq_ok.mp hset).trans (by rw [hf]), fun r hr => ?_⟩
  obtain ⟨hterms, heliminated, htouched, huntouched⟩ := hrows r hr
  refine ⟨hterms, heliminated, fun hperiod => ?_⟩
  have htouch : Nets s.balances tolerance r.row → (Touched (balancesOf s groupId periodId) r ↔
      (s.activeEntity groupId r.row.fromEntityId).isSome ∨
        (s.activeEntity groupId r.row.toEntityId).isSome) := by
    intro hnets
    obtain ⟨q, hfind, -⟩ := nets_iff.mp hnets
    obtain ⟨hget, hq⟩ := isReciprocal_of_reciprocal hfind
    constructor
    · rintro ⟨x, hx, hid | hreciprocal⟩
      · obtain ⟨hxrow, -, hactive⟩ := mem_balancesOf.mp hx
        have hsame := get?_of_mem hxrow
        rw [hid, get?_of_mem hr] at hsame
        exact .inl (Option.some.inj hsame ▸ hactive)
      · exact .inr (hreciprocal.2.2.1 ▸ (mem_balancesOf.mp hx).2.2)
    · rintro (hactive | hactive)
      · exact ⟨r, mem_balancesOf.mpr ⟨hr, hperiod, hactive⟩, .inl rfl⟩
      · exact ⟨q, mem_balancesOf.mpr ⟨get?_eq_some.mp hget, hq.1.trans hperiod,
          hq.2.1 ▸ hactive⟩, .inr hq.symm⟩
  by_cases hnow : Touched (balancesOf s groupId periodId) r
  · rw [htouched hnow, Matches]
    exact ⟨fun hnets => ⟨hnets, (htouch hnets).mp hnow⟩, And.left⟩
  · rw [huntouched hnow, hunmatched r hr hperiod]
    refine ⟨fun hfalse => absurd hfalse Bool.false_ne_true, fun hmatches =>
      absurd ((htouch hmatches.1).mpr hmatches.2) hnow⟩

end DotmacErp.Consolidation
