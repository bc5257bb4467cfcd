import DotmacErp.GL.LedgerIdentity

/-!
# Closed periods stay closed

Two services own a period's status. Their transition tables agree on closing and on the way out
of a soft close through a reopen session, but `FiscalPeriodService.open_period` also takes a
soft-closed period straight back to open, which the guard's `open_period` refuses.

What a call does to the ledger and the calendar is described by what it asks the period gate
(`PeriodGate`): a call that asks nothing leaves both alone or only ages the calendar, and one
that asks has passed the gate (`PeriodGate.Passed`). The status of a period that was ever closed
is tracked by `ClosedOnce`, which every transition but the one above keeps.
-/

namespace DotmacErp

open Calendar Relational Session PeriodGuardService

variable {s s' t t' : Db} {op : Operation} {k : UUID} {p : FiscalPeriod}

/-! ### What a call asks the gate -/

structure PeriodGate where
  organizationId : UUID
  postingDate : Date
  allowAdjustment : Bool
  reopenSessionId : Option UUID

/-- What a call asks the period gate, if it gets that far. The adapter carries neither an
allowance nor a session. -/
def Operation.gate (s : Db) : Operation → Option PeriodGate
  | postJournal org k _ _ allow session =>
    (s.journals.get? k).map fun journal => ⟨org, journal.postingDate, allow, session⟩
  | createReversal _ org _ d _ _ autoPost _ allow session =>
    if autoPost then some ⟨org, d, allow, session⟩ else none
  | createApproveAndPostJournal _ org _ _ posting => some ⟨org, posting.postingDate, false, none⟩
  | postToLedger org _ _ posting => some ⟨org, posting.postingDate, false, none⟩
  | _ => none

def PeriodGate.Grows (g : PeriodGate) (s : Db) (periods : Table FiscalPeriod) : Prop :=
  periods = s.fiscalPeriods ∨ (coveringPeriods s g.organizationId g.postingDate = [] ∧
    ∃ y, periods = s.fiscalPeriods.insert (onDemandPeriod g.organizationId y g.postingDate))

structure PeriodGate.Allows (g : PeriodGate) (periods : Table FiscalPeriod)
    (row : PostedLedgerLine) : Prop where
  organizationId : row.organizationId = g.organizationId
  postingDate : row.postingDate = g.postingDate
  period : ∃ p, periods.get? row.fiscalPeriodId = some p ∧ p.organizationId = g.organizationId ∧
    p.Covers g.postingDate ∧ Accepts g.allowAdjustment g.reopenSessionId p

/-- A call that passed the gate: the calendar grew at most by a month, and the ledger by rows
the gate allowed. -/
structure PeriodGate.Passed (g : PeriodGate) (s s' : Db) : Prop where
  grows : g.Grows s s'.fiscalPeriods
  rows : ∃ rows, s'.ledger = s.ledger ++ rows ∧ ∀ row ∈ rows, g.Allows s'.fiscalPeriods row

namespace PeriodGate

variable {g : PeriodGate} {periods : Table FiscalPeriod}

theorem Grows.keeps (h : g.Grows s periods) (hp : s.fiscalPeriods.get? k = some p) :
    periods.get? k = some p := by
  rcases h with hsame | ⟨_, y, hinsert⟩
  · rw [hsame, hp]
  · rw [hinsert]
    exact Table.get?_insert_of_some hp _

theorem grows_of_gated (h : Gated g.organizationId g.postingDate g.allowAdjustment
    g.reopenSessionId s periods k) : g.Grows s periods := by
  rcases h with ⟨_, _, _, _, hsame⟩ | ⟨hnone, y, _, hinsert⟩
  · exact Or.inl hsame
  · exact Or.inr ⟨hnone, y, hinsert⟩

variable {s₁ : Db}

theorem grows_of_gated_again {k₁ : UUID}
    (h : Gated g.organizationId g.postingDate g.allowAdjustment g.reopenSessionId s
      s₁.fiscalPeriods k₁)
    (h' : Gated g.organizationId g.postingDate g.allowAdjustment g.reopenSessionId s₁ periods k) :
    g.Grows s periods := by
  obtain ⟨p, hp, horg, hcovers, _⟩ := h.accepts
  have hmem : (⟨k₁, p⟩ : Stored FiscalPeriod) ∈
      coveringPeriods s₁ g.organizationId g.postingDate :=
    mem_coveringPeriods.mpr ⟨hp, horg, hcovers⟩
  rcases h' with ⟨_, _, _, _, hsame⟩ | ⟨hnone, _⟩
  · rw [hsame]
    exact grows_of_gated h
  · rw [hnone] at hmem
    exact absurd hmem (by simp)

theorem coveringPeriods_congr (h : s₁.fiscalPeriods = s.fiscalPeriods) (org : UUID)
    (d : Date) : coveringPeriods s₁ org d = coveringPeriods s org d := by
  rw [coveringPeriods, coveringPeriods, h]

theorem Passed.of_same (hperiods : s₁.fiscalPeriods = s.fiscalPeriods)
    (hledger : s₁.ledger = s.ledger) (h : g.Passed s₁ s') : g.Passed s s' := by
  refine ⟨?_, by rw [← hledger]; exact h.rows⟩
  have hgrows := h.grows
  rwa [Grows, hperiods, coveringPeriods_congr hperiods] at hgrows

theorem Passed.same (hperiods : s₁.fiscalPeriods = s'.fiscalPeriods)
    (hledger : s₁.ledger = s'.ledger) (h : g.Passed s s') : g.Passed s s₁ := by
  refine ⟨hperiods ▸ h.grows, ?_⟩
  rw [hperiods, hledger]
  exact h.rows

theorem passed_of_grows (h : g.Grows s s'.fiscalPeriods) (hledger : s'.ledger = s.ledger) :
    g.Passed s s' :=
  ⟨h, [], by rw [hledger, List.append_nil], by simp⟩

def ofRequest (request : PostingRequest) : PeriodGate :=
  ⟨request.organizationId, request.postingDate, request.allowAdjustmentPeriod,
    request.reopenSessionId⟩

variable {request : PostingRequest}

theorem rows_of_written {journal : JournalEntry} {b : UUID}
    (hw : LedgerPostingService.Written request journal b k s s') :
    ∃ rows, s'.ledger = s.ledger ++ rows ∧
      ∀ row ∈ rows, (ofRequest request).Allows s'.fiscalPeriods row := by
  refine ⟨_, hw.ledger, fun row hrow => ?_⟩
  obtain ⟨_, _, hperiod, hdate, horg⟩ := mem_rowsOf hrow
  have haccepts := hw.gated.accepts
  rw [← hperiod] at haccepts
  exact ⟨horg, hdate, haccepts⟩

theorem passed_of_post {result : PostingResult}
    (h : LedgerPostingService.postJournalEntry request s = .ok result s') :
    (ofRequest request).Passed s s' := by
  rcases LedgerPostingService.postJournalEntry_eq_ok h with ⟨_, _, _, _, _, hsame⟩ |
    ⟨_, _, _, hw, _⟩
  · exact passed_of_grows (Or.inl (by rw [hsame])) (by rw [hsame])
  · exact ⟨grows_of_gated (g := ofRequest request) hw.gated, rows_of_written hw⟩

theorem passed_of_refused
    (h : LedgerPostingService.Refused request s s') : (ofRequest request).Passed s s' := by
  obtain ⟨batches, years, periods, hs', _, hperiods⟩ := h
  refine passed_of_grows ?_ (by rw [hs'])
  have hp : s'.fiscalPeriods = periods := by rw [hs']
  rw [hp]
  rcases hperiods with hsame | ⟨_, hgated⟩
  · exact Or.inl hsame
  · exact grows_of_gated (g := ofRequest request) hgated

end PeriodGate

/-! ### Calls and the gate -/

variable {org : UUID}

theorem createReversal_passed {env : Env} {user : UUID} {d : Date} {reason : String}
    {key : Option String} {allow : Bool} {session : Option UUID} {r : ReversalResult}
    (h : ReversalService.createReversal env org k d user reason true key allow session s =
      .ok r s') : (PeriodGate.mk org d allow session).Passed s s' := by
  obtain ⟨original, periodId, years, periods, _, _, _, _, _, _, hgated, _, hpost⟩ :=
    ReversalService.createReversal_auto_eq_ok h
  rcases hpost with ⟨_, rfl⟩ | ⟨_, result, hpost⟩
  · exact PeriodGate.passed_of_grows
      (PeriodGate.grows_of_gated (g := ⟨org, d, allow, session⟩) hgated) rfl
  have hperiods : (ReversalService.marked env s original k periodId d user reason years
      periods).fiscalPeriods = periods := rfl
  rcases LedgerPostingService.postJournalEntry_eq_ok hpost with ⟨_, _, _, _, _, hsame⟩ |
    ⟨_, _, _, hw, _⟩
  · refine PeriodGate.passed_of_grows ?_ (by rw [hsame]; rfl)
    rw [hsame, hperiods]
    exact PeriodGate.grows_of_gated (g := ⟨org, d, allow, session⟩) hgated
  · refine ⟨?_, PeriodGate.rows_of_written hw⟩
    rw [← hperiods] at hgated
    exact PeriodGate.grows_of_gated_again (g := ⟨org, d, allow, session⟩) hgated hw.gated

theorem postToLedger_passed {user : UUID} {posting : BasePostingAdapter.LedgerPosting}
    {r : AdapterResult} (h : BasePostingAdapter.postToLedger org k user posting s = .ok r s') :
    (PeriodGate.mk org posting.postingDate false none).Passed s s' := by
  rcases BasePostingAdapter.postToLedger_eq_ok h with ⟨result, hpost, _⟩ |
    ⟨s₁, hrefused, hrevert, _⟩
  · exact PeriodGate.passed_of_post hpost
  · have hpassed := PeriodGate.passed_of_refused hrefused
    rcases BasePostingAdapter.revertUnpostedJournal_eq_ok hrevert with ⟨_, hs'⟩ | ⟨_, hs'⟩
    · exact hpassed.same (by rw [hs']) (by rw [hs'])
    · rw [hs']
      exact hpassed

variable {u : PUnit}

/-- **Calls and the gate.** A call off the calendar either leaves the periods and the ledger
alone, or has passed the gate it asked. -/
theorem Operation.run_gate (hop : op.onCalendar ≠ true) (h : op.run s = .ok u s') :
    (s'.fiscalPeriods = s.fiscalPeriods ∧ s'.ledger = s.ledger) ∨
      ∃ g, op.gate s = some g ∧ g.Passed s s' := by
  cases op with
  | createJournal =>
    obtain ⟨_, h⟩ := discard_eq_ok.mp h
    obtain ⟨_, _, _, _, hadd⟩ := JournalService.createJournal_eq_ok h
    obtain ⟨_, _, rfl⟩ := addJournal_eq_ok hadd
    exact Or.inl ⟨rfl, rfl⟩
  | updateJournal =>
    obtain ⟨_, _, _, _, _, _, _, _, _, rfl⟩ := JournalService.updateJournal_eq_ok h
    exact Or.inl ⟨rfl, rfl⟩
  | deleteJournal =>
    obtain ⟨_, _, _, _, _, rfl⟩ := JournalService.deleteJournal_eq_ok h
    exact Or.inl ⟨rfl, rfl⟩
  | submitJournal =>
    obtain ⟨_, _, _, _, rfl⟩ := JournalService.submitJournal_eq_ok h
    exact Or.inl ⟨rfl, rfl⟩
  | approveJournal =>
    obtain ⟨_, _, _, _, rfl⟩ := JournalService.approveJournal_eq_ok h
    exact Or.inl ⟨rfl, rfl⟩
  | voidJournal =>
    obtain ⟨_, _, _, _, _, rfl⟩ := JournalService.voidJournal_eq_ok h
    exact Or.inl ⟨rfl, rfl⟩
  | postJournal org k user key allow session =>
    obtain ⟨_, h⟩ := discard_eq_ok.mp h
    obtain ⟨journal, hget, _, _, ⟨_, hsame⟩ | ⟨_, result, hpost⟩⟩ :=
      JournalService.postJournal_eq_ok h
    · exact Or.inl ⟨by rw [hsame], by rw [hsame]⟩
    · refine Or.inr ⟨⟨org, journal.postingDate, allow, session⟩, ?_,
        PeriodGate.passed_of_post hpost⟩
      simp [Operation.gate, hget]
  | createReversal env org k d user reason autoPost key allow session =>
    obtain ⟨_, h⟩ := discard_eq_ok.mp h
    cases autoPost with
    | false =>
      obtain ⟨_, _, _, _, _, _, _, _, _, rfl⟩ := ReversalService.createReversal_draft_eq_ok h
      exact Or.inl ⟨rfl, rfl⟩
    | true => exact Or.inr ⟨_, rfl, createReversal_passed h⟩
  | createApproveAndPostJournal env org input user posting =>
    obtain ⟨_, h⟩ := discard_eq_ok.mp h
    rw [BasePostingAdapter.createApproveAndPostJournal, bind_eq_ok] at h
    obtain ⟨x, s₁, hcreate, h⟩ := h
    rcases BasePostingAdapter.createAndApproveJournal_eq_ok hcreate with ⟨_, rfl, _, hs₁⟩ |
      ⟨_, _, rfl, _, _, _, hs₁⟩
    · obtain ⟨_, hs'⟩ := pure_eq_ok.mp h
      exact Or.inl ⟨by rw [hs', hs₁], by rw [hs', hs₁]⟩
    · obtain ⟨_, s₂, hpost, h⟩ := bind_eq_ok.mp h
      obtain ⟨_, rfl⟩ := pure_eq_ok.mp h
      have hpassed := postToLedger_passed hpost
      exact Or.inr ⟨_, rfl, hpassed.of_same (by rw [hs₁]; rfl) (by rw [hs₁]; rfl)⟩
  | postToLedger org k user posting =>
    obtain ⟨_, h⟩ := discard_eq_ok.mp h
    exact Or.inr ⟨_, rfl, postToLedger_passed h⟩
  | external =>
    obtain rfl := modify_eq_ok.mp h
    exact Or.inl ⟨rfl, rfl⟩
  | _ => exact absurd rfl hop

/-! ### Hard-closed periods -/

def rowsOfPeriod (ledger : List PostedLedgerLine) (k : UUID) : List PostedLedgerLine :=
  ledger.filter fun row => row.fiscalPeriodId = k

/-- Every hard-closed period is the same, and so are its rows. -/
def Sealed (s s' : Db) : Prop :=
  ∀ k p, s.fiscalPeriods.get? k = some p → p.status = .hardClosed →
    s'.fiscalPeriods.get? k = some p ∧ rowsOfPeriod s'.ledger k = rowsOfPeriod s.ledger k

theorem Sealed.refl (s : Db) : Sealed s s := fun _ _ hp _ => ⟨hp, rfl⟩

theorem Sealed.trans {s'' : Db} (h : Sealed s s') (h' : Sealed s' s'') : Sealed s s'' := by
  intro k p hp hclosed
  obtain ⟨hp', hrows⟩ := h k p hp hclosed
  obtain ⟨hp'', hrows'⟩ := h' k p hp' hclosed
  exact ⟨hp'', hrows'.trans hrows⟩

/-- A call leaves hard-closed periods and their rows alone: the calendar calls do not move them,
and the gate allows no row there. -/
theorem Operation.run_sealed (h : op.run s = .ok u s') : Sealed s s' := by
  intro k p hp hclosed
  by_cases hop : op.onCalendar = true
  · obtain ⟨years, periods, hage, hs'⟩ := Operation.onCalendar_frame hop h
    obtain ⟨p', hp', hages⟩ := hage k p hp
    rw [hages.hardClosed hclosed] at hp'
    rw [hs']
    exact ⟨hp', rfl⟩
  · rcases Operation.run_gate hop h with ⟨hperiods, hledger⟩ | ⟨g, _, hgrows, rows, hledger, hrows⟩
    · rw [hperiods, hledger]
      exact ⟨hp, rfl⟩
    · refine ⟨hgrows.keeps hp, ?_⟩
      have hnone : ∀ row ∈ rows, row.fiscalPeriodId ≠ k := by
        intro row hrow hk
        obtain ⟨q, hq, _, _, haccepts⟩ := (hrows row hrow).period
        rw [hk, hgrows.keeps hp, Option.some.injEq] at hq
        have husable := haccepts.usable.1
        rw [← hq, hclosed] at husable
        exact absurd husable (by decide)
      rw [rowsOfPeriod, hledger, List.filter_append, rowsOfPeriod, List.append_right_eq_self]
      exact List.filter_eq_nil_iff.mpr fun row hrow => by simpa using hnone row hrow

/-- **Every run seals hard-closed periods.** -/
theorem run_sealed (h : ledgerSystem.Run s s') : Sealed s s' := by
  refine h.relates (P := fun _ => True) (fun _ _ _ _ _ _ => trivial) trivial Sealed.refl
    (fun _ _ _ => Sealed.trans) ?_
  intro s op s' _ _ hstep
  obtain rfl : s' = commit op.run s := hstep
  exact commit_induction (Sealed.refl s) fun _ _ hrun => Operation.run_sealed hrun

/-! ### Periods that were closed once -/

/-- The statuses a period can have after a soft close that no `open_period` has undone. -/
def ClosedOnce (status : PeriodStatus) : Prop :=
  status = .softClosed ∨ status = .hardClosed ∨ status = .reopened

/-- A call is not the `open_period` of the period's own organization that finds it soft-closed. -/
def KeepsClosed (k : UUID) (s : Db) (op : Operation) : Prop :=
  ∀ p, s.fiscalPeriods.get? k = some p → op = .openPeriod p.organizationId k →
    p.status ≠ .softClosed

def StaysClosed (k : UUID) (s : Db) : Prop :=
  ∃ p, s.fiscalPeriods.get? k = some p ∧ ClosedOnce p.status

variable {k' : UUID} {f : FiscalPeriod → FiscalPeriod}

theorem StaysClosed.modify (h : StaysClosed k s)
    (hf : ∀ p, k = k' → s.fiscalPeriods.get? k = some p → ClosedOnce p.status →
      ClosedOnce (f p).status) (hs' : s'.fiscalPeriods = s.fiscalPeriods.modify k' f) :
    StaysClosed k s' := by
  obtain ⟨p, hp, hclosed⟩ := h
  rw [StaysClosed, hs', Table.get?_modify]
  split_ifs with hk
  · rw [hp, Option.map_some]
    exact ⟨f p, rfl, hf p hk hp hclosed⟩
  · exact ⟨p, hp, hclosed⟩

theorem StaysClosed.transition {sources : List PeriodStatus} {refusal : PeriodStatus → String}
    {r : FiscalPeriod} (hs : StaysClosed k s) (h : transition org k' sources refusal f s = .ok r s')
    (hf : ∀ p, ClosedOnce (f p).status) : StaysClosed k s' := by
  obtain ⟨_, _, _, _, _, hs'⟩ := transition_eq_ok.mp h
  exact hs.modify (fun p _ _ _ => hf p) (by rw [hs'])

theorem StaysClosed.open {sources : List PeriodStatus}
    {refusal : PeriodStatus → String} {r : FiscalPeriod}
    (hs : StaysClosed k s) (h : DotmacErp.transition org k' sources refusal f s = .ok r s')
    (hf : ∀ p, k = k' → p.organizationId = org → s.fiscalPeriods.get? k = some p →
      ClosedOnce p.status → p.status ∉ sources) : StaysClosed k s' := by
  obtain ⟨p', hp', horg, hsource, _, hs'⟩ := transition_eq_ok.mp h
  refine hs.modify (fun p hk hp hclosed => ?_) (by rw [hs'])
  rw [← hk, hp, Option.some.injEq] at hp'
  subst hp'
  exact absurd hsource (hf p hk horg hp hclosed)

theorem StaysClosed.insert (added : List FiscalPeriod) (h : StaysClosed k s)
    (hs' : s'.fiscalPeriods = added.foldl Table.insert s.fiscalPeriods) : StaysClosed k s' := by
  obtain ⟨p, hp, hclosed⟩ := h
  refine ⟨p, ?_, hclosed⟩
  rw [hs']
  clear hs'
  generalize s.fiscalPeriods = periods at hp
  induction added generalizing periods with
  | nil => exact hp
  | cons q rest ih => exact ih _ (Table.get?_insert_of_some hp q)

/-- **A call keeps a closed period closed** unless it is the `open_period` that takes it back. -/
theorem Operation.run_staysClosed (hs : StaysClosed k s) (hkeeps : KeepsClosed k s op)
    (h : op.run s = .ok u s') : StaysClosed k s' := by
  by_cases hop : op.onCalendar = true
  swap
  · obtain ⟨p, hp, hclosed⟩ := hs
    rcases Operation.run_gate hop h with ⟨hperiods, _⟩ | ⟨g, _, hpassed⟩
    · exact ⟨p, by rw [hperiods, hp], hclosed⟩
    · exact ⟨p, hpassed.grows.keeps hp, hclosed⟩
  cases op with
  | createPeriod org input =>
    obtain ⟨_, h⟩ := discard_eq_ok.mp h
    obtain ⟨_, _, _, _, _, hs'⟩ := FiscalPeriodService.createPeriod_eq_ok.mp h
    exact StaysClosed.insert [FiscalPeriodService.newPeriod org input] hs (by rw [hs']; rfl)
  | createYearWithPeriods =>
    obtain ⟨_, h⟩ := discard_eq_ok.mp h
    obtain ⟨years, hs', _⟩ := FiscalYearService.createYearWithPeriods_eq_ok h
    exact StaysClosed.insert _ hs (by rw [hs'])
  | ensurePeriodExists org d =>
    obtain ⟨_, h⟩ := discard_eq_ok.mp h
    rcases ensurePeriodExists_eq_ok h with ⟨_, hs'⟩ | ⟨_, y, _, hp, hs'⟩
    · exact hs' ▸ hs
    · exact StaysClosed.insert [onDemandPeriod org y d] hs (by rw [hs', hp]; rfl)
  | openPeriod org k' =>
    obtain ⟨_, h⟩ := discard_eq_ok.mp h
    refine hs.open h fun p hk horg hp hclosed => ?_
    have hne := hkeeps p hp (by rw [hk, horg])
    rcases hclosed with hc | hc | hc <;> simp [hc] at hne ⊢
  | guardOpenPeriod =>
    obtain ⟨_, h⟩ := discard_eq_ok.mp h
    refine hs.open h fun p _ _ _ hclosed => ?_
    rcases hclosed with hc | hc | hc <;> simp [hc]
  | softClosePeriod =>
    obtain ⟨_, h⟩ := discard_eq_ok.mp h
    obtain ⟨_, _, _, _, _, _, hs'⟩ := FiscalPeriodService.softClosePeriod_eq_ok.mp h
    exact hs.modify (fun _ _ _ _ => Or.inl rfl) (by rw [hs'])
  | closeReopenSession =>
    obtain ⟨_, h⟩ := discard_eq_ok.mp h
    obtain ⟨_, _, _, _, _, hs'⟩ := closeReopenSession_eq_ok h
    exact hs.modify (fun _ _ _ _ => Or.inl rfl) (by rw [hs'])
  | guardSoftClosePeriod =>
    obtain ⟨_, h⟩ := discard_eq_ok.mp h
    exact hs.transition h fun _ => Or.inl rfl
  | hardClosePeriod =>
    obtain ⟨_, h⟩ := discard_eq_ok.mp h
    exact hs.transition h fun _ => Or.inr (Or.inl rfl)
  | guardHardClosePeriod =>
    obtain ⟨_, h⟩ := discard_eq_ok.mp h
    exact hs.transition h fun _ => Or.inr (Or.inl rfl)
  | reopenPeriod =>
    obtain ⟨_, h⟩ := discard_eq_ok.mp h
    exact hs.transition h fun _ => Or.inr (Or.inr rfl)
  | guardReopenPeriod =>
    obtain ⟨_, h⟩ := discard_eq_ok.mp h
    exact hs.transition h fun _ => Or.inr (Or.inr rfl)
  | _ => exact absurd hop Bool.false_ne_true

theorem runWithin_staysClosed (h : ledgerSystem.RunWithin (KeepsClosed k) s t)
    (hs : StaysClosed k s) : StaysClosed k t := by
  refine h.preserves (P := StaysClosed k) (fun s op s' hs hkeeps hstep => ?_) hs
  obtain rfl : s' = commit op.run s := hstep
  exact commit_induction hs fun _ _ hrun => Operation.run_staysClosed hs hkeeps hrun

/-! ### The rows a step adds -/

def AddsAllowed (op : Operation) (s s' : Db) : Prop :=
  ∃ rows, s'.ledger = s.ledger ++ rows ∧ ∀ row ∈ rows, ∃ g, op.gate s = some g ∧
    g.Grows s s'.fiscalPeriods ∧ g.Allows s'.fiscalPeriods row

theorem AddsAllowed.none (h : s'.ledger = s.ledger) : AddsAllowed op s s' :=
  ⟨[], by rw [h, List.append_nil], by simp⟩

theorem step_addsAllowed (h : ledgerSystem.step s op s') : AddsAllowed op s s' := by
  obtain rfl : s' = commit op.run s := h
  refine commit_induction (P := AddsAllowed op s) (.none rfl) fun _ s' hrun => ?_
  by_cases hop : op.onCalendar = true
  · obtain ⟨_, _, _, hs'⟩ := Operation.onCalendar_frame hop hrun
    exact .none (by rw [hs'])
  · rcases Operation.run_gate hop hrun with ⟨_, hledger⟩ | ⟨g, hg, hgrows, rows, hledger, hrows⟩
    · exact .none hledger
    · exact ⟨rows, hledger, fun row hrow => ⟨g, hg, hgrows, hrows row hrow⟩⟩

/-- **Closed periods.** Along every run of the period operations of both services and of the
calls that post: a row is written into a period of its organization that covers its posting
date and is open or reopened at that moment; a period that is hard-closed stays as it is, and
so do its rows; and a row written into a period that was soft-closed, and not opened again by
`FiscalPeriodService.open_period` since, was written by a call that carries the period's
current reopen session. -/
theorem closed_periods_stay_closed (hrun : ledgerSystem.Run s t)
    (hstep : ledgerSystem.step t op t') :
    (∀ k p, s.fiscalPeriods.get? k = some p → p.status = .hardClosed →
      t'.fiscalPeriods.get? k = some p ∧ rowsOfPeriod t'.ledger k = rowsOfPeriod s.ledger k) ∧
    ∃ rows, t'.ledger = t.ledger ++ rows ∧ ∀ row ∈ rows,
      (∃ p, t'.fiscalPeriods.get? row.fiscalPeriodId = some p ∧
        p.organizationId = row.organizationId ∧ p.Covers row.postingDate ∧
        (p.status = .open ∨ p.status = .reopened)) ∧
      ∀ p, s.fiscalPeriods.get? row.fiscalPeriodId = some p → p.status = .softClosed →
        ledgerSystem.RunWithin (KeepsClosed row.fiscalPeriodId) s t →
        ∃ p' g session, t.fiscalPeriods.get? row.fiscalPeriodId = some p' ∧
          op.gate t = some g ∧ g.reopenSessionId = some session ∧
          p'.lastReopenSessionId = some session := by
  refine ⟨run_sealed (hrun.trans (System.Run.single hstep)), ?_⟩
  obtain ⟨rows, hledger, hrows⟩ := step_addsAllowed hstep
  refine ⟨rows, hledger, fun row hrow => ?_⟩
  obtain ⟨g, hg, hgrows, hallows⟩ := hrows row hrow
  obtain ⟨q, hq, horg, hcovers, haccepts⟩ := hallows.period
  constructor
  · refine ⟨q, hq, horg.trans hallows.organizationId.symm, hallows.postingDate ▸ hcovers, ?_⟩
    exact haccepts.2.imp_right And.left
  · intro p hp hsoft hkeeps
    obtain ⟨p', hp', hclosed⟩ := runWithin_staysClosed hkeeps ⟨p, hp, Or.inl hsoft⟩
    rw [hgrows.keeps hp', Option.some.injEq] at hq
    subst hq
    rcases haccepts.2 with hopen | ⟨_, hne, hsession⟩
    · rcases hclosed with hc | hc | hc <;> simp [hc] at hopen
    · obtain ⟨session, hsome⟩ := Option.ne_none_iff_exists'.mp hne
      exact ⟨p', g, session, hp', hg, hsome, hsession.trans hsome⟩

/-! ### A soft-closed January -/

def softClosedDb : Db := sampleDb.after [.softClosePeriod 0 0 9]

def openedAgainDb : Db := softClosedDb.after (.openPeriod 0 0 :: sampleCalls.take 3)

def reopenedDb : Db := softClosedDb.after (.guardReopenPeriod 0 0 42 :: sampleCalls.take 3)

def samplePostingUnder (session : Option UUID) : Operation :=
  .postJournal 0 0 8 none false session

theorem softClosedDb_january : ∃ p, softClosedDb.fiscalPeriods.get? 0 = some p ∧
    p.status = .softClosed := by
  have hsoft :
    (softClosedDb.fiscalPeriods.get? 0).any (fun p => p.status = .softClosed) = true := by
    decide +kernel
  obtain ⟨p, hp, hstatus⟩ := (Option.any_eq_true _ _).mp hsoft
  exact ⟨p, hp, of_decide_eq_true hstatus⟩

/-- After `open_period` a posting goes into the period without any session. -/
theorem soft_close_undone :
    ¬ ∀ s t op t', ledgerSystem.Reachable s → ledgerSystem.Run s t → ledgerSystem.step t op t' →
      ∀ row ∈ t'.ledger, row ∉ t.ledger → ∀ p,
        s.fiscalPeriods.get? row.fiscalPeriodId = some p → p.status = .softClosed →
        ∃ g session, op.gate t = some g ∧ g.reopenSessionId = some session := by
  intro h
  obtain ⟨p, hp, hsoft⟩ := softClosedDb_january
  have hempty : openedAgainDb.ledger.length = 0 := by decide +kernel
  have hrows : ∃ row ∈ (commit (samplePostingUnder none).run openedAgainDb).ledger,
      row.fiscalPeriodId = 0 := by decide +kernel
  obtain ⟨row, hrow, hperiod⟩ := hrows
  have hnew : row ∉ openedAgainDb.ledger := by
    rw [List.length_eq_zero_iff.mp hempty]
    exact List.not_mem_nil
  obtain ⟨g, session, hg, hsession⟩ := h softClosedDb openedAgainDb (samplePostingUnder none) _
    (reachable_after rfl rfl rfl [.softClosePeriod 0 0 9]) (run_after _ _) rfl row hrow hnew p
    (hperiod ▸ hp) hsoft
  rw [samplePostingUnder, Operation.gate, Option.map_eq_some_iff] at hg
  obtain ⟨_, _, hg⟩ := hg
  rw [← hg] at hsession
  exact absurd hsession (by simp)

/-- Reopened under session 42, January takes two rows of a posting that carries it. -/
theorem closed_periods_sample :
    ∃ rows, (commit (samplePostingUnder (some 42)).run reopenedDb).ledger =
        reopenedDb.ledger ++ rows ∧ rows.length = 2 ∧
      ∀ row ∈ rows, ∃ p g session, reopenedDb.fiscalPeriods.get? row.fiscalPeriodId = some p ∧
        (samplePostingUnder (some 42)).gate reopenedDb = some g ∧
        g.reopenSessionId = some session ∧ p.lastReopenSessionId = some session := by
  have hempty : reopenedDb.ledger.length = 0 := by decide +kernel
  have htwo : (commit (samplePostingUnder (some 42)).run reopenedDb).ledger.length = 2 := by
    decide +kernel
  have hjanuary : ∀ row ∈ (commit (samplePostingUnder (some 42)).run reopenedDb).ledger,
      row.fiscalPeriodId = 0 := by decide +kernel
  have hkeeps : ∀ s op, (∀ org, op ≠ .openPeriod org 0) → KeepsClosed 0 s op :=
    fun _ _ hother p _ hop => absurd hop (hother p.organizationId)
  have hallowed : AllowedAlong (KeepsClosed 0) softClosedDb
      (.guardReopenPeriod 0 0 42 :: sampleCalls.take 3) :=
    ⟨hkeeps _ _ nofun, hkeeps _ _ nofun, hkeeps _ _ nofun, hkeeps _ _ nofun, trivial⟩
  obtain ⟨_, rows, hledger, hrows⟩ := closed_periods_stay_closed
    (run_after softClosedDb (.guardReopenPeriod 0 0 42 :: sampleCalls.take 3))
    (rfl : ledgerSystem.step _ (samplePostingUnder (some 42)) _)
  refine ⟨rows, hledger, ?_, fun row hrow => ?_⟩
  · have hlength := congrArg List.length hledger
    rw [List.length_append] at hlength
    change _ = reopenedDb.ledger.length + rows.length at hlength
    rw [hempty, Nat.zero_add] at hlength
    exact hlength.symm.trans htwo
  · obtain ⟨p, hp, hsoft⟩ := softClosedDb_january
    have hzero : row.fiscalPeriodId = 0 := by
      refine hjanuary row ?_
      rw [reopenedDb, hledger]
      exact List.mem_append_right _ hrow
    refine (hrows row hrow).2 p (hzero ▸ hp) hsoft ?_
    rw [hzero]
    exact runWithin_after hallowed

end DotmacErp
