import DotmacErp.Foundation.System
import DotmacErp.GL.AccountBalances
import DotmacErp.GL.BalanceInvalidation

/-!
# Cumulative balances

The balance cache through a list of periods of one organization. `balanceSystem` has the
writes that reach the cache: postings append ledger rows and mark balances stale, balances are
refreshed and rebuilt in any order, and closing figures are rolled over from a period of the
list to the next one. `Traced` is what a balance always satisfies: it is kept in the functional
currency, closes to its opening and movement, shows no movement where the ledger has none, and
carries an opening only where an earlier period of the list has rows.

When every period is fresh, one pass of rollovers makes each period `Cumulative`: its closing
figures are the sums over the ledger rows of the periods up to it. The step is
`Cumulative.rollover`, one period from the one before, and the run is by induction on the
periods still to come. A second pass finds every target as it would write it.
-/

namespace DotmacErp

open Relational AccountBalanceService

/-! ### The periods and their rows -/

def rowsIn (periods : List UUID) (k : BalanceKey) (ledger : List PostedLedgerLine) :
    List PostedLedgerLine :=
  ledger.filter fun r => r.organizationId = k.organizationId ∧ r.accountId = k.accountId ∧
    r.dimensions = k.dimensions ∧ r.fiscalPeriodId ∈ periods

/-- The key of an actual balance of the period. -/
def InPeriod (org p : UUID) (k : BalanceKey) : Prop :=
  k.organizationId = org ∧ k.fiscalPeriodId = p ∧ k.balanceType = .actual

structure Traced (earlier : List UUID) (db : Db) (k : BalanceKey) (b : AccountBalance) : Prop where
  currency : k.currencyCode = db.functionalCurrency k.organizationId
  closed : b.Closed
  still : keyRows k db.ledger = [] → b.shown = movement []
  opened : b.Unopened ∨ rowsIn earlier k db.ledger ≠ []

def Fresh (db : Db) (k : BalanceKey) : Prop :=
  keyRows k db.ledger ≠ [] → ∃ b, db.balance? k = some b ∧ b.shown = movement (keyRows k db.ledger)

/-- The closing figures of a period are the sums over the rows of some periods, and every
balance with such rows is present. -/
structure Cumulative (org : UUID) (periods : List UUID) (p : UUID) (db : Db) : Prop where
  currency : ∀ k b, InPeriod org p k → db.balance? k = some b →
    k.currencyCode = db.functionalCurrency org
  closing : ∀ k b, InPeriod org p k → db.balance? k = some b →
    b.closingDebit = (movement (rowsIn periods k db.ledger)).debit ∧
      b.closingCredit = (movement (rowsIn periods k db.ledger)).credit
  present : ∀ k, InPeriod org p k → k.currencyCode = db.functionalCurrency org →
    rowsIn periods k db.ledger ≠ [] → ∃ b, db.balance? k = some b

structure Prepared (org : UUID) (earlier : List UUID) (p : UUID) (db : Db) : Prop where
  traced : ∀ k b, InPeriod org p k → db.balance? k = some b → Traced earlier db k b
  fresh : ∀ k, InPeriod org p k → k.currencyCode = db.functionalCurrency org → Fresh db k

/-- The balances of a period show the ledger: each shows the movement of its rows, and no rows
are without a balance. -/
structure Current (org p : UUID) (db : Db) : Prop where
  shown : ∀ k b, InPeriod org p k → db.balance? k = some b →
    k.currencyCode = db.functionalCurrency org ∧ b.Closed ∧
      b.shown = movement (keyRows k db.ledger)
  present : ∀ k, InPeriod org p k → k.currencyCode = db.functionalCurrency org →
    keyRows k db.ledger ≠ [] → ∃ b, db.balance? k = some b

/-- The opening figures of a period are the closing ones of another, and zero where that has no
balance. -/
def BroughtForward (org p q : UUID) (db : Db) : Prop :=
  ∀ k, InPeriod org q k →
    match db.balance? { k with fiscalPeriodId := p } with
    | some source => ∃ b, db.balance? k = some b ∧
        b.openingDebit = source.closingDebit ∧ b.openingCredit = source.closingCredit
    | none => ∀ b, db.balance? k = some b → b.Unopened

/-- The balances of the periods are current, each brought forward from the one before it. -/
structure UpToDate (org : UUID) (periods : List UUID) (db : Db) : Prop where
  keyed : db.KeyedBalances
  current : ∀ p ∈ periods, Current org p db
  first : ∀ p rest, periods = p :: rest → ∀ k b, InPeriod org p k → db.balance? k = some b →
    b.Unopened
  forward : ∀ l p q r, periods = l ++ p :: q :: r → BroughtForward org p q db

section Rows

variable {ps : List UUID} {p : UUID} {k : BalanceKey} {l l' : List PostedLedgerLine}
  {r : PostedLedgerLine}

@[simp] theorem mem_rowsIn :
    r ∈ rowsIn ps k l ↔ r ∈ l ∧ r.organizationId = k.organizationId ∧
      r.accountId = k.accountId ∧ r.dimensions = k.dimensions ∧ r.fiscalPeriodId ∈ ps := by
  simp [rowsIn, List.mem_filter]

@[simp] theorem rowsIn_nil (k : BalanceKey) (l : List PostedLedgerLine) : rowsIn [] k l = [] := by
  simp [rowsIn]

theorem rowsIn_concat_ne_nil :
    rowsIn (ps ++ [k.fiscalPeriodId]) k l ≠ [] ↔ rowsIn ps k l ≠ [] ∨ keyRows k l ≠ [] := by
  simp only [ne_eq, List.eq_nil_iff_forall_not_mem, not_forall, not_not, mem_rowsIn,
    mem_keyRows, List.mem_append, List.mem_singleton]
  constructor
  · rintro ⟨r, hr, ho, ha, hd, hp | hp⟩
    · exact Or.inl ⟨r, hr, ho, ha, hd, hp⟩
    · exact Or.inr ⟨r, hr, ho, ha, hp, hd⟩
  · rintro (⟨r, hr, ho, ha, hd, hp⟩ | ⟨r, hr, ho, ha, hp, hd⟩)
    · exact ⟨r, hr, ho, ha, hd, Or.inl hp⟩
    · exact ⟨r, hr, ho, ha, hd, Or.inr hp⟩

theorem sum_rowsIn_concat (amount : PostedLedgerLine → ℚ) (hnew : k.fiscalPeriodId ∉ ps) :
    ((rowsIn (ps ++ [k.fiscalPeriodId]) k l).map amount).sum =
      ((rowsIn ps k l).map amount).sum + ((keyRows k l).map amount).sum := by
  induction l with
  | nil => simp [rowsIn, keyRows]
  | cons r l ih =>
    simp only [rowsIn, keyRows, List.filter_cons, List.mem_append, List.mem_singleton,
      decide_eq_true_eq] at ih ⊢
    by_cases hkey : r.organizationId = k.organizationId ∧ r.accountId = k.accountId ∧
        r.dimensions = k.dimensions
    · by_cases hp : r.fiscalPeriodId = k.fiscalPeriodId
      · simp only [hkey, hp, hnew, and_true, if_true, if_false, or_true, and_false,
          List.map_cons, List.sum_cons, ih]
        ring
      · simp only [hkey, hp, true_and, and_true, or_false, and_false, if_false]
        split_ifs
        · simp only [List.map_cons, List.sum_cons, ih]
          ring
        · exact ih
    · have hfar : ∀ P : Prop, ¬ (r.organizationId = k.organizationId ∧
          r.accountId = k.accountId ∧ r.dimensions = k.dimensions ∧ P) := fun P h =>
        hkey ⟨h.1, h.2.1, h.2.2.1⟩
      have hfar' : ¬ (r.organizationId = k.organizationId ∧ r.accountId = k.accountId ∧
          r.fiscalPeriodId = k.fiscalPeriodId ∧ r.dimensions = k.dimensions) := fun h =>
        hkey ⟨h.1, h.2.1, h.2.2.2⟩
      simp only [hfar, hfar', if_false]
      exact ih

theorem rowsIn_append : rowsIn ps k (l ++ l') = rowsIn ps k l ++ rowsIn ps k l' :=
  List.filter_append ..

end Rows

/-! ### From one period to the next -/

/-- Roll closing figures over from each period of a list to the next. -/
def rolloverAll (org : UUID) : List UUID → Db → Db
  | p :: q :: rest, db =>
    rolloverAll org (q :: rest) (rolloverOpeningBalances org p q .actual db).2
  | _, db => db

section Rollover

variable {org p q : UUID} {ps : List UUID} {db : Db} {k : BalanceKey} {b : AccountBalance}

@[simp] theorem ledger_rollover (o p q : UUID) (ty : BalanceType) (db : Db) :
    (rolloverOpeningBalances o p q ty db).2.ledger = db.ledger := rfl

theorem balance?_rollover_of_period (h : db.KeyedBalances) (hk : k.fiscalPeriodId ≠ q) :
    (rolloverOpeningBalances org p q .actual db).2.balance? k = db.balance? k :=
  balance?_rollover_of_ne h (Or.inl fun hin => hk hin.2.1)

theorem AccountBalance.Closed.of_unopened (hclosed : b.Closed) (hopen : b.Unopened) :
    b.closingDebit = b.shown.debit ∧ b.closingCredit = b.shown.credit := by
  refine ⟨?_, ?_⟩
  · rw [hclosed.1, hopen.1, zero_add]
    rfl
  · rw [hclosed.2, hopen.2, zero_add]
    rfl

theorem Prepared.current (h : Prepared org ps q db) : Current org q db := by
  refine ⟨fun k b hk hb => ?_, fun k hk hcode hne => ?_⟩
  · have htraced := h.traced k b hk hb
    have hcode : k.currencyCode = db.functionalCurrency org := hk.1 ▸ htraced.currency
    refine ⟨hcode, htraced.closed, ?_⟩
    by_cases hrows : keyRows k db.ledger = []
    · rw [htraced.still hrows, hrows]
    · obtain ⟨b', hb', hshown⟩ := h.fresh k hk hcode hrows
      rw [hb] at hb'
      rw [Option.some.inj hb', hshown]
  · obtain ⟨b, hb, -⟩ := h.fresh k hk hcode hne
    exact ⟨b, hb⟩

theorem Current.cumulative (h : Current org p db)
    (hopen : ∀ k b, InPeriod org p k → db.balance? k = some b → b.Unopened) :
    Cumulative org [p] p db := by
  have hrows : ∀ k, InPeriod org p k → rowsIn [p] k db.ledger = keyRows k db.ledger := by
    intro k hk
    refine List.filter_congr fun r _ => ?_
    simp only [decide_eq_decide, List.mem_singleton, hk.2.1]
    tauto
  refine ⟨fun k b hk hb => (h.shown k b hk hb).1, fun k b hk hb => ?_, fun k hk hcode hne => ?_⟩
  · obtain ⟨-, hclosed, hshown⟩ := h.shown k b hk hb
    rw [hrows k hk, ← hshown]
    exact hclosed.of_unopened (hopen k b hk hb)
  · rw [hrows k hk] at hne
    exact h.present k hk hcode hne

/-- **The next period.** What a cumulative period is brought forward to is cumulative. -/
theorem Cumulative.next (h : Cumulative org ps p db) (hcurrent : Current org q db)
    (hforward : BroughtForward org p q db) (hnew : q ∉ ps) :
    Cumulative org (ps ++ [q]) q db := by
  have hsource : ∀ k, InPeriod org q k → InPeriod org p { k with fiscalPeriodId := p } :=
    fun k hk => ⟨hk.1, rfl, hk.2.2⟩
  refine ⟨fun k b hk hb => (hcurrent.shown k b hk hb).1, fun k b hk hb => ?_,
    fun k hk hcode hne => ?_⟩
  · obtain ⟨hcode, hclosed, hshown⟩ := hcurrent.shown k b hk hb
    have hdebit : b.periodDebit = (movement (keyRows k db.ledger)).debit :=
      congrArg Movement.debit hshown
    have hcredit : b.periodCredit = (movement (keyRows k db.ledger)).credit :=
      congrArg Movement.credit hshown
    -- the opening figures are the sums over the earlier periods
    have hopening : b.openingDebit = (movement (rowsIn ps k db.ledger)).debit ∧
        b.openingCredit = (movement (rowsIn ps k db.ledger)).credit := by
      have hk' := hforward k hk
      cases hs : db.balance? { k with fiscalPeriodId := p } with
      | some source =>
        rw [hs] at hk'
        obtain ⟨b', hb', hopenDebit, hopenCredit⟩ := hk'
        rw [hb] at hb'
        obtain rfl := Option.some.inj hb'
        rw [hopenDebit, hopenCredit]
        exact h.closing { k with fiscalPeriodId := p } source (hsource k hk) hs
      | none =>
        rw [hs] at hk'
        have hrows : rowsIn ps k db.ledger = [] := by
          by_contra hne
          obtain ⟨source, hsome⟩ := h.present _ (hsource k hk) hcode hne
          rw [hs] at hsome
          exact absurd hsome (by simp)
        rw [hrows]
        exact hk' b hb
    have hsum : ∀ amount, ((rowsIn (ps ++ [q]) k db.ledger).map amount).sum =
        ((rowsIn ps k db.ledger).map amount).sum + ((keyRows k db.ledger).map amount).sum :=
      fun amount => by
        have hconcat := sum_rowsIn_concat (k := k) (l := db.ledger) amount (hk.2.1 ▸ hnew)
        rwa [hk.2.1] at hconcat
    rw [hclosed.1, hclosed.2, hopening.1, hopening.2, hdebit, hcredit]
    exact ⟨(hsum _).symm, (hsum _).symm⟩
  · rw [← hk.2.1, rowsIn_concat_ne_nil] at hne
    refine hne.elim (fun hrows => ?_) (hcurrent.present k hk hcode)
    obtain ⟨source, hs⟩ := h.present _ (hsource k hk) hcode hrows
    have hk' := hforward k hk
    rw [hs] at hk'
    obtain ⟨b, hb, -⟩ := hk'
    exact ⟨b, hb⟩

/-- **Fresh balances that are rolled over in order are cumulative**, in every period. -/
theorem UpToDate.cumulative {periods : List UUID} (h : UpToDate org periods db)
    (hnodup : periods.Nodup) {earlier later : List UUID}
    (hsplit : periods = earlier ++ p :: later) : Cumulative org (earlier ++ [p]) p db := by
  -- from the first period on, each period from the one before it
  induction earlier using List.reverseRecOn generalizing p later with
  | nil =>
    have hcurrent := h.current p (by rw [hsplit]; simp)
    exact hcurrent.cumulative (h.first p later hsplit)
  | append_singleton earlier p' ih =>
    have hsplit' : periods = earlier ++ p' :: p :: later := by rw [hsplit]; simp
    have hcurrent := h.current p (by rw [hsplit]; simp)
    refine (ih hsplit').next hcurrent (h.forward earlier p' p later hsplit') ?_
    rw [hsplit] at hnodup
    exact fun hmem => (List.nodup_append.mp hnodup).2.2 _ hmem _ List.mem_cons_self rfl

/-! ### One rollover -/

theorem Current.rollover (hcurrent : Current org q db) (h : Cumulative org ps p db)
    (hkeyed : db.KeyedBalances) :
    Current org q (rolloverOpeningBalances org p q .actual db).2 := by
  refine ⟨fun k b hk hb => ?_, fun k hk hcode hne => ?_⟩
  · cases hs : db.balance? { k with fiscalPeriodId := p } with
    | none =>
      rw [balance?_rollover_of_ne hkeyed (Or.inr hs)] at hb
      exact hcurrent.shown k b hk hb
    | some source =>
      have hcode : k.currencyCode = db.functionalCurrency org :=
        h.currency { k with fiscalPeriodId := p } source ⟨hk.1, rfl, hk.2.2⟩ hs
      rw [balance?_rollover_of_source hkeyed ⟨hk.1, hk.2.1, hk.2.2⟩ hs] at hb
      obtain rfl := Option.some.inj hb
      cases ht : db.balance? k with
      | some target =>
        obtain ⟨-, -, hshown⟩ := hcurrent.shown k target hk ht
        exact ⟨hcode, ⟨rfl, rfl⟩, hshown⟩
      | none =>
        -- nothing to show: rows would have had a balance
        have hrows : keyRows k db.ledger = [] := by
          by_contra hne
          obtain ⟨b, hb⟩ := hcurrent.present k hk hcode hne
          rw [ht] at hb
          exact absurd hb (by simp)
        refine ⟨hcode, ⟨(add_zero _).symm, (add_zero _).symm⟩, ?_⟩
        rw [ledger_rollover, hrows]
        rfl
  · obtain ⟨b, hb⟩ := hcurrent.present k hk hcode hne
    cases hs : db.balance? { k with fiscalPeriodId := p } with
    | none => exact ⟨b, (balance?_rollover_of_ne hkeyed (Or.inr hs)).trans hb⟩
    | some source => exact ⟨_, balance?_rollover_of_source hkeyed ⟨hk.1, hk.2.1, hk.2.2⟩ hs⟩

theorem broughtForward_rollover (h : Cumulative org ps p db) (hprepared : Prepared org ps q db)
    (hkeyed : db.KeyedBalances) (hne : p ≠ q) :
    BroughtForward org p q (rolloverOpeningBalances org p q .actual db).2 := by
  intro k hk
  rw [balance?_rollover_of_period hkeyed (k := { k with fiscalPeriodId := p }) hne]
  cases hs : db.balance? { k with fiscalPeriodId := p } with
  | some source =>
    refine ⟨_, balance?_rollover_of_source hkeyed ⟨hk.1, hk.2.1, hk.2.2⟩ hs, ?_⟩
    cases db.balance? k with
    | some target => exact ⟨rfl, rfl⟩
    | none => exact ⟨rfl, rfl⟩
  | none =>
    intro b hb
    rw [balance?_rollover_of_ne hkeyed (Or.inr hs)] at hb
    have htraced := hprepared.traced k b hk hb
    refine htraced.opened.resolve_right fun hrows => ?_
    obtain ⟨source, hsome⟩ := h.present { k with fiscalPeriodId := p } ⟨hk.1, rfl, hk.2.2⟩
      (hk.1 ▸ htraced.currency) hrows
    rw [hs] at hsome
    exact absurd hsome (by simp)

/-! ### A pass of rollovers -/

variable {earlier rest : List UUID} {db' : Db}

/-- The target of a rollover is as the rollover would write it. -/
def RolledFrom (org p q : UUID) (db : Db) : Prop :=
  ∀ k source, InPeriod org p k → db.balance? k = some source →
    ∃ target, db.balance? { k with fiscalPeriodId := q } = some target ∧
      rolledInto source target = target

theorem Current.congr (h : Current org p db) (hledger : db'.ledger = db.ledger)
    (hcode : db'.functionalCurrency = db.functionalCurrency)
    (hsame : ∀ k, k.fiscalPeriodId = p → db'.balance? k = db.balance? k) :
    Current org p db' := by
  refine ⟨fun k b hk hb => ?_, fun k hk hkcode hne => ?_⟩
  · rw [hsame k hk.2.1] at hb
    rw [hcode, hledger]
    exact h.shown k b hk hb
  · rw [hledger] at hne
    rw [hcode] at hkcode
    rw [hsame k hk.2.1]
    exact h.present k hk hkcode hne

theorem Prepared.congr (h : Prepared org ps p db) (hledger : db'.ledger = db.ledger)
    (hcode : db'.functionalCurrency = db.functionalCurrency)
    (hsame : ∀ k, k.fiscalPeriodId = p → db'.balance? k = db.balance? k) :
    Prepared org ps p db' := by
  refine ⟨fun k b hk hb => ?_, fun k hk hkcode hne => ?_⟩
  · rw [hsame k hk.2.1] at hb
    obtain ⟨hcurrency, hclosed, hstill, hopened⟩ := h.traced k b hk hb
    rw [← hledger] at hstill hopened
    rw [← hcode] at hcurrency
    exact ⟨hcurrency, hclosed, hstill, hopened⟩
  · rw [hledger] at hne ⊢
    rw [hcode] at hkcode
    rw [hsame k hk.2.1]
    exact h.fresh k hk hkcode hne

theorem BroughtForward.congr (h : BroughtForward org p q db)
    (hsource : ∀ k, k.fiscalPeriodId = p → db'.balance? k = db.balance? k)
    (htarget : ∀ k, k.fiscalPeriodId = q → db'.balance? k = db.balance? k) :
    BroughtForward org p q db' := by
  intro k hk
  rw [hsource { k with fiscalPeriodId := p } rfl, htarget k hk.2.1]
  exact h k hk

theorem ledger_rolloverAll (org : UUID) (periods : List UUID) (db : Db) :
    (rolloverAll org periods db).ledger = db.ledger ∧
      (rolloverAll org periods db).functionalCurrency = db.functionalCurrency := by
  induction periods generalizing db with
  | nil => exact ⟨rfl, rfl⟩
  | cons p periods ih =>
    cases periods with
    | nil => exact ⟨rfl, rfl⟩
    | cons q rest => exact ih (rolloverOpeningBalances org p q .actual db).2

theorem rolloverAll_frame (org p : UUID) (rest : List UUID) (hkeyed : db.KeyedBalances) :
    (rolloverAll org (p :: rest) db).KeyedBalances ∧
      ∀ k, k.fiscalPeriodId ∉ rest →
        (rolloverAll org (p :: rest) db).balance? k = db.balance? k := by
  induction rest generalizing p db with
  | nil => exact ⟨hkeyed, fun _ _ => rfl⟩
  | cons q rest ih =>
    obtain ⟨hkept, hsame⟩ := ih q (keyed_rollover hkeyed org p q .actual)
    refine ⟨hkept, fun k hk => ?_⟩
    rw [List.mem_cons, not_or] at hk
    exact (hsame k hk.2).trans (balance?_rollover_of_period hkeyed hk.1)

/-- A pass over periods still to come: the first one is cumulative and the others are
prepared. -/
theorem brought_rolloverAll (earlier : List UUID)
    (hnodup : (earlier ++ p :: rest).Nodup) (hkeyed : db.KeyedBalances)
    (h : Cumulative org (earlier ++ [p]) p db) (hcurrent : Current org p db)
    (hprepared : ∀ l q r, rest = l ++ q :: r → Prepared org (earlier ++ p :: l) q db) :
    (∀ x ∈ p :: rest, Current org x (rolloverAll org (p :: rest) db)) ∧
      ∀ l x y r, p :: rest = l ++ x :: y :: r →
        BroughtForward org x y (rolloverAll org (p :: rest) db) := by
  -- each rollover makes the next period cumulative, and the later ones leave it alone
  induction rest generalizing earlier p db with
  | nil =>
    refine ⟨fun x hx => ?_, fun l x y r heq => ?_⟩
    · rw [List.mem_singleton.mp hx]
      exact hcurrent
    · have hlength := congrArg List.length heq
      simp only [List.length_cons, List.length_nil, List.length_append] at hlength
      omega
  | cons q rest ih =>
    have hparts := List.nodup_cons.mp (List.nodup_append.mp hnodup).2.1
    have hparts' := List.nodup_cons.mp hparts.2
    have hpq : p ≠ q := fun heq => hparts.1 (heq ▸ List.mem_cons_self)
    have hnodup' : (earlier ++ [p] ++ q :: rest).Nodup := by simpa using hnodup
    have hnew : q ∉ earlier ++ [p] := fun hmem =>
      (List.nodup_append.mp hnodup').2.2 _ hmem _ List.mem_cons_self rfl
    have hq := hprepared [] q rest rfl
    have hkeyed₁ := keyed_rollover hkeyed org p q .actual
    have hcurrent₁ := hq.current.rollover h hkeyed
    have hforward := broughtForward_rollover h hq hkeyed hpq
    have hsource : Cumulative org (earlier ++ [p]) p
        (rolloverOpeningBalances org p q .actual db).2 := by
      refine ⟨fun k b hk hb => ?_, fun k b hk hb => ?_, fun k hk hcode hne => ?_⟩
      · rw [balance?_rollover_of_period hkeyed (hk.2.1 ▸ hpq)] at hb
        exact h.currency k b hk hb
      · rw [balance?_rollover_of_period hkeyed (hk.2.1 ▸ hpq)] at hb
        exact h.closing k b hk hb
      · rw [balance?_rollover_of_period hkeyed (hk.2.1 ▸ hpq)]
        exact h.present k hk hcode hne
    have hnext := hsource.next hcurrent₁ hforward hnew
    have hcome : ∀ l x r, rest = l ++ x :: r → Prepared org (earlier ++ [p] ++ q :: l) x
        (rolloverOpeningBalances org p q .actual db).2 := by
      intro l x r heq
      have hx := hprepared (q :: l) x r (by rw [heq, List.cons_append])
      have hne : x ≠ q := fun hxq => hparts'.1 (by rw [heq]; simp [hxq])
      rw [List.append_assoc]
      exact hx.congr rfl rfl fun k hk => balance?_rollover_of_period hkeyed (hk ▸ hne)
    obtain ⟨hcurrents, hforwards⟩ := ih (earlier ++ [p]) hnodup' hkeyed₁ hnext hcurrent₁ hcome
    obtain ⟨hledger, hcode⟩ := ledger_rolloverAll org (p :: q :: rest) db
    obtain ⟨-, hsame⟩ := rolloverAll_frame org q rest hkeyed₁
    have hsame' : ∀ k, k.fiscalPeriodId = p →
        (rolloverAll org (p :: q :: rest) db).balance? k = db.balance? k := fun k hk =>
      (hsame k fun hmem => hparts.1 (List.mem_cons_of_mem _ (hk ▸ hmem))).trans
        (balance?_rollover_of_period hkeyed (hk.symm ▸ hpq))
    refine ⟨fun x hx => ?_, fun l x y r heq => ?_⟩
    · cases List.mem_cons.mp hx with
      | inl heq => exact heq ▸ hcurrent.congr hledger hcode hsame'
      | inr hmem => exact hcurrents x hmem
    · cases l with
      | nil =>
        obtain ⟨rfl, htail⟩ := List.cons.inj heq
        obtain ⟨rfl, rfl⟩ := List.cons.inj htail
        refine hforward.congr (fun k hk => hsame k fun hmem => ?_) fun k hk => hsame k ?_
        · exact hparts.1 (List.mem_cons_of_mem _ (hk ▸ hmem))
        · exact hk.symm ▸ hparts'.1
      | cons p' l =>
        obtain ⟨rfl, htail⟩ := List.cons.inj heq
        exact hforwards l x y r htail

/-- **A pass of rollovers** brings prepared periods up to date. -/
theorem upToDate_rolloverAll {periods : List UUID} (hnodup : periods.Nodup)
    (hkeyed : db.KeyedBalances)
    (hprepared : ∀ earlier q later, periods = earlier ++ q :: later →
      Prepared org earlier q db) : UpToDate org periods (rolloverAll org periods db) := by
  cases periods with
  | nil => exact ⟨hkeyed, by simp, by simp, by simp⟩
  | cons p rest =>
    have hp := hprepared [] p rest rfl
    have hunopened : ∀ k b, InPeriod org p k → db.balance? k = some b → b.Unopened :=
      fun k b hk hb => (hp.traced k b hk hb).opened.resolve_right fun hne => hne (rowsIn_nil _ _)
    obtain ⟨hcurrents, hforwards⟩ := brought_rolloverAll [] hnodup hkeyed
      (hp.current.cumulative hunopened) hp.current
      fun l q r heq => hprepared (p :: l) q r (by rw [heq, List.cons_append])
    obtain ⟨hkept, hsame⟩ := rolloverAll_frame org p rest hkeyed
    refine ⟨hkept, hcurrents, fun p' rest' heq k b hk hb => ?_, hforwards⟩
    obtain ⟨rfl, rfl⟩ := List.cons.inj heq
    rw [hsame k (hk.2.1.symm ▸ (List.nodup_cons.mp hnodup).1)] at hb
    exact hunopened k b hk hb

/-! ### A second pass -/

theorem rolledFrom_rollover (hkeyed : db.KeyedBalances) (hne : p ≠ q) :
    RolledFrom org p q (rolloverOpeningBalances org p q .actual db).2 := by
  intro k source hk hsource
  have hback : { { k with fiscalPeriodId := q } with fiscalPeriodId := p } = k := by
    rw [← hk.2.1]
  rw [balance?_rollover_of_period hkeyed (hk.2.1.symm ▸ hne), ← hback] at hsource
  refine ⟨_, balance?_rollover_of_source hkeyed ⟨hk.1, rfl, hk.2.2⟩ hsource, ?_⟩
  cases db.balance? { k with fiscalPeriodId := q } with
  | some target => rfl
  | none => simp [rolledInto, rolledOver]

theorem rollover_eq_self (hkeyed : db.KeyedBalances) (h : RolledFrom org p q db) :
    (rolloverOpeningBalances org p q .actual db).2 = db := by
  have hsame : (rolloverOpeningBalances org p q .actual db).2.balances = db.balances := by
    refine Table.upsertAll_eq_self fun r hr => ?_
    obtain ⟨hget, hr⟩ := Table.mem_select.mp hr
    rw [decide_eq_true_eq] at hr
    exact h r.row.key r.row hr (hkeyed.at?_of_get? hget)
  exact congrArg (fun balances => { db with balances := balances }) hsame

theorem rolledFrom_rolloverAll (hkeyed : db.KeyedBalances) (hnodup : (p :: rest).Nodup) :
    ∀ l x y r, p :: rest = l ++ x :: y :: r →
      RolledFrom org x y (rolloverAll org (p :: rest) db) := by
  induction rest generalizing p db with
  | nil =>
    intro l x y r heq
    have hlength := congrArg List.length heq
    simp at hlength
    omega
  | cons q rest ih =>
    have hkeyed₁ := keyed_rollover hkeyed org p q .actual
    have hp := List.nodup_cons.mp hnodup
    have hq := List.nodup_cons.mp hp.2
    intro l x y r heq
    cases l with
    | nil =>
      obtain ⟨rfl, htail⟩ := List.cons.inj heq
      obtain ⟨rfl, rfl⟩ := List.cons.inj htail
      have hne : p ≠ q := fun hpq => hp.1 (hpq ▸ List.mem_cons_self)
      have hrolled : RolledFrom org p q _ := rolledFrom_rollover hkeyed hne
      obtain ⟨-, hsame⟩ := rolloverAll_frame org q rest hkeyed₁
      intro k source hk hsource
      have hk' : k.fiscalPeriodId ∉ rest := fun hmem =>
        hp.1 (List.mem_cons_of_mem _ (hk.2.1 ▸ hmem))
      rw [rolloverAll, hsame k hk'] at hsource
      obtain ⟨target, htarget, hwrite⟩ := hrolled k source hk hsource
      exact ⟨target, (hsame _ hq.1).trans htarget, hwrite⟩
    | cons p' l =>
      obtain ⟨rfl, htail⟩ := List.cons.inj heq
      exact ih hkeyed₁ hp.2 l x y r htail

/-- **A second pass.** Running the rollovers again changes nothing. -/
theorem rolloverAll_eq_self (hkeyed : db.KeyedBalances)
    (h : ∀ l x y r, ps = l ++ x :: y :: r → RolledFrom org x y db) :
    rolloverAll org ps db = db := by
  induction ps with
  | nil => rfl
  | cons p ps ih =>
    cases ps with
    | nil => rfl
    | cons q rest =>
      rw [rolloverAll, rollover_eq_self hkeyed (h [] p q rest rfl)]
      exact ih fun l x y r heq => h (p :: l) x y r (by rw [heq, List.cons_append])

end Rollover

end DotmacErp
