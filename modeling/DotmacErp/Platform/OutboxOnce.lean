import DotmacErp.Foundation.History
import DotmacErp.Platform.OutboxRelay

/-!
# Outbox effects apply once per life

Whatever a transaction does to the outbox is one of three things (`Effect`): the rows are kept,
each in its way; one event, held under a claim, is delivered; or one event begins a new life.
Kept rows never go back from a settled, unclaimed row to a deliverable or a claimed one, because
the claim only takes rows that are PENDING or FAILED and a settlement only touches a row that is
held under its token. That is what lets a delivery happen only in a life that has had none.

The unlocked `mark_dead` is a kept row as well: whatever it read, all it can write is a DEAD
status and an empty token.

A delivery is more than a mark: what is committed with it is what the handler returned on the
business state (`Delivers`), and no other step of the relay touches that state.
-/

namespace DotmacErp.Outbox

open Relational Session Program History OutboxPublisher

variable {β : Type} {handlers : Handlers β} {s s' : OutboxStore β} {k : UUID}

/-! ### What a transaction does -/

def EventOutbox.Terminal (row : EventOutbox) : Prop :=
  row.status = .published ∨ row.status = .dead

/-- A row that lives on: settled and unclaimed it stays so, and it is published only without a
handler. -/
structure Kept (handlers : Handlers β) (row row' : EventOutbox) : Prop where
  eventName : row'.eventName = row.eventName
  settled : row.claimToken = none → row.Terminal → row'.claimToken = none ∧ row'.Terminal
  published : row'.status = .published → row.status = .published ∨ handlers row.eventName = none

theorem Kept.refl (row : EventOutbox) : Kept handlers row row :=
  ⟨rfl, fun ht hs => ⟨ht, hs⟩, fun hp => Or.inl hp⟩

/-- A transaction delivers an event: its handler returned on the business state, and what it
returned is committed. -/
def Delivers (handlers : Handlers β) (s s' : OutboxStore β) (k : UUID) : Prop :=
  ∃ row handler, s.events.get? k = some row ∧ handlers row.eventName = some handler ∧
    handler row s.business = .ok ⟨⟩ s'.business

inductive Effect (handlers : Handlers β) (s s' : OutboxStore β) : Prop
  | kept (rows : ∀ k row', s'.events.get? k = some row' →
        ∃ row, s.events.get? k = some row ∧ Kept handlers row row')
      (present : ∀ k row, s.events.get? k = some row → ∃ row', s'.events.get? k = some row')
      (marks : s'.marks = s.marks) (business : s'.business = s.business)
  | delivered (k : UUID) (row : EventOutbox) (hrow : s.events.get? k = some row)
      (claimed : row.claimToken ≠ none)
      (events : s'.events = s.events.modify k (OutboxPublisher.published s.clock none))
      (marks : s'.marks = Function.update s.marks k (.applied :: s.marks k))
      (ran : Delivers handlers s s' k)
  | reset (k : UUID) (row' : EventOutbox) (hrow' : s'.events.get? k = some row')
      (pending : row'.status = .pending) (unclaimed : row'.claimToken = none)
      (eventName : ∀ row, s.events.get? k = some row → row'.eventName = row.eventName)
      (others : ∀ j, j ≠ k → s'.events.get? j = s.events.get? j)
      (marks : s'.marks = Function.update s.marks k (.reset :: s.marks k))
      (business : s'.business = s.business)

namespace Effect

theorem same (hevents : s'.events = s.events) (hmarks : s'.marks = s.marks)
    (hbusiness : s'.business = s.business) : Effect handlers s s' := by
  refine .kept (fun k row' hrow' => ⟨row', by rw [← hevents, hrow'], Kept.refl row'⟩)
    (fun k row hrow => ⟨row, by rw [hevents, hrow]⟩) hmarks hbusiness

theorem modified {f : EventOutbox → EventOutbox}
    (hf : ∀ row, s.events.get? k = some row → Kept handlers row (f row)) :
    Effect handlers s (s.modifyEvent k f) := by
  refine .kept (fun j row' hrow' => ?_) (fun j row hrow => ?_) rfl rfl
  · simp only [OutboxStore.modifyEvent, Table.get?_modify] at hrow'
    by_cases hj : j = k
    · subst hj
      rw [if_pos rfl, Option.map_eq_some_iff] at hrow'
      obtain ⟨row, hrow, rfl⟩ := hrow'
      exact ⟨row, hrow, hf row hrow⟩
    · rw [if_neg hj] at hrow'
      exact ⟨row', hrow', Kept.refl row'⟩
  · simp only [OutboxStore.modifyEvent, Table.get?_modify, hrow]
    by_cases hj : j = k <;> simp [hj]

theorem eventName (h : Effect handlers s s') {row : EventOutbox}
    (hrow : s.events.get? k = some row) :
    ∃ row', s'.events.get? k = some row' ∧ row'.eventName = row.eventName := by
  cases h with
  | kept rows present _ _ =>
    obtain ⟨row', hrow'⟩ := present k row hrow
    obtain ⟨row₀, hrow₀, hkept⟩ := rows k row' hrow'
    rw [hrow] at hrow₀
    obtain rfl : row = row₀ := Option.some.inj hrow₀
    exact ⟨row', hrow', hkept.eventName⟩
  | delivered j _ _ _ events _ _ =>
    rw [events, Table.get?_modify, hrow]
    by_cases hk : k = j
    · rw [if_pos hk]
      exact ⟨_, rfl, rfl⟩
    · rw [if_neg hk]
      exact ⟨row, rfl, rfl⟩
  | reset j row' hrow' _ _ hname others _ _ =>
    by_cases hk : k = j
    · subst hk
      exact ⟨row', hrow', hname row hrow⟩
    · exact ⟨row, by rw [others k hk, hrow], rfl⟩

theorem published (h : Effect handlers s s') {row' : EventOutbox}
    (hrow' : s'.events.get? k = some row') (hpublished : row'.status = .published)
    (hhandler : (handlers row'.eventName).isSome) :
    (∃ row, s.events.get? k = some row ∧ row.status = .published) ∨
      (Delivers handlers s s' k ∧ s'.marks k = .applied :: s.marks k) := by
  cases h with
  | kept rows _ _ _ =>
    obtain ⟨row, hrow, hkept⟩ := rows k row' hrow'
    refine Or.inl ⟨row, hrow, (hkept.published hpublished).resolve_right fun hnone => ?_⟩
    rw [hkept.eventName, hnone] at hhandler
    simp at hhandler
  | delivered j row _ _ events marks ran =>
    by_cases hk : k = j
    · subst hk
      exact Or.inr ⟨ran, by rw [marks, Function.update_self]⟩
    · rw [events, Table.get?_modify_of_ne hk] at hrow'
      exact Or.inl ⟨row', hrow', hpublished⟩
  | reset j row₁ hrow₁ hpending _ _ others _ _ =>
    by_cases hk : k = j
    · subst hk
      obtain rfl : row₁ = row' := Option.mem_unique hrow₁ hrow'
      rw [hpending] at hpublished
      exact absurd hpublished (by simp)
    · rw [others k hk] at hrow'
      exact Or.inl ⟨row', hrow', hpublished⟩

/-- A delivery is marked exactly when the handler's mutations are committed with it. -/
theorem applied (h : Effect handlers s s') (hmark : s'.marks k = .applied :: s.marks k) :
    Delivers handlers s s' k := by
  cases h with
  | kept _ _ marks _ => simp [marks] at hmark
  | delivered j _ _ _ _ marks ran =>
    by_cases hk : k = j
    · exact hk ▸ ran
    · rw [marks, Function.update_of_ne hk] at hmark
      simp at hmark
  | reset j _ _ _ _ _ _ marks _ =>
    by_cases hk : k = j
    · subst hk
      simp [marks] at hmark
    · rw [marks, Function.update_of_ne hk] at hmark
      simp at hmark

/-- The business state changes by a delivery only. -/
theorem business (h : Effect handlers s s') (hchange : s'.business ≠ s.business) :
    ∃ k, Delivers handlers s s' k ∧ s'.marks k = .applied :: s.marks k := by
  cases h with
  | kept _ _ _ same => exact absurd same hchange
  | delivered j _ _ _ _ marks ran => exact ⟨j, ran, by rw [marks, Function.update_self]⟩
  | reset _ _ _ _ _ _ _ _ same => exact absurd same hchange

end Effect

/-! ### The account of an event -/

/-- The accounts and the rows: no life has two deliveries, and after its delivery an event is
settled and unclaimed. -/
structure Once (s : OutboxStore β) : Prop where
  separated : ∀ k, Separated .applied .reset (s.marks k)
  spent : ∀ k row, s.events.get? k = some row → Since .applied .reset (s.marks k) →
    row.claimToken = none ∧ row.Terminal

theorem Once.effect (h : Once s) (he : Effect handlers s s') : Once s' := by
  cases he with
  | kept rows _ marks _ =>
    refine ⟨by rw [marks]; exact h.separated, fun k row' hrow' hsince => ?_⟩
    obtain ⟨row, hrow, hkept⟩ := rows k row' hrow'
    rw [marks] at hsince
    obtain ⟨htoken, hterminal⟩ := h.spent k row hrow hsince
    exact hkept.settled htoken hterminal
  | delivered j row hrow claimed events marks _ =>
    -- the event was claimed, so this life has had no delivery yet
    have hfirst : ¬ Since .applied .reset (s.marks j) := fun hsince =>
      claimed (h.spent j row hrow hsince).1
    refine ⟨fun k => ?_, fun k row' hrow' hsince => ?_⟩
    · rw [marks]
      by_cases hk : k = j
      · subst hk
        rw [Function.update_self]
        exact separated_cons_self (h.separated k) hfirst
      · rw [Function.update_of_ne hk]
        exact h.separated k
    · rw [events, Table.get?_modify] at hrow'
      by_cases hk : k = j
      · subst hk
        rw [if_pos rfl, hrow] at hrow'
        obtain rfl := Option.some.inj hrow'
        exact ⟨rfl, Or.inl rfl⟩
      · rw [if_neg hk] at hrow'
        rw [marks, Function.update_of_ne hk] at hsince
        exact h.spent k row' hrow' hsince
  | reset j row₁ hrow₁ _ _ _ others marks _ =>
    refine ⟨fun k => ?_, fun k row' hrow' hsince => ?_⟩
    · rw [marks]
      by_cases hk : k = j
      · subst hk
        rw [Function.update_self]
        exact (h.separated k).cons_of_ne (by simp)
      · rw [Function.update_of_ne hk]
        exact h.separated k
    · rw [marks] at hsince
      by_cases hk : k = j
      · subst hk
        rw [Function.update_self] at hsince
        exact absurd hsince (not_since_cons (by simp))
      · rw [Function.update_of_ne hk] at hsince
        rw [others k hk] at hrow'
        exact h.spent k row' hrow' hsince

/-! ### The settlements -/

/-- The settlements of a claimed event, with what they record. -/
inductive Settlement where
  | published (reason : Option TerminalReason)
  | retry (message : String) (errorClass : Option String)
  | dead (message : String) (errorClass : Option String) (reason : TerminalReason)
  | unsupported

def Settlement.run (k token : UUID) : Settlement → OutboxSession β PUnit
  | published reason => markPublished k token reason
  | retry message errorClass => handleRetry k token message errorClass
  | dead message errorClass reason => markDead k token message errorClass reason
  | unsupported => markUnsupported k token

def Settlement.row (now : ℕ) : Settlement → EventOutbox → EventOutbox
  | published reason => OutboxPublisher.published now reason
  | retry message errorClass => retried now message errorClass
  | dead message errorClass reason => deadLettered now message errorClass reason
  | unsupported =>
    deadLettered now "No registered handler and event is not declared no-consequence"
      (some "UnsupportedEventError") .unsupportedEvent

variable {token : UUID}

theorem Settlement.run_eq_ok {x : Settlement} {u : PUnit} :
    x.run k token s = .ok u s' ↔ ∃ row, s.events.get? k = some row ∧
      row.claimToken = some token ∧ s' = s.modifyEvent k (x.row s.clock) := by
  have hclaimed : ∀ g : OutboxStore β → OutboxStore β,
      (do let _ ← getClaimedEvent k token; modify g : OutboxSession β PUnit) s = .ok u s' ↔
        ∃ row, s.events.get? k = some row ∧ row.claimToken = some token ∧ s' = g s := by
    intro g
    simp only [getClaimedEvent, bind_eq_ok, get_eq_ok, orRaise_eq_ok, refuse_eq_ok, pure_eq_ok,
      modify_eq_ok, not_not]
    constructor
    · rintro ⟨event, s₁, ⟨s₂, _, ⟨rfl, rfl⟩, row, _, ⟨hrow, rfl⟩, _, _, ⟨htoken, rfl⟩, rfl, rfl⟩,
        hs'⟩
      exact ⟨event, hrow, htoken, hs'⟩
    · rintro ⟨row, hrow, htoken, hs'⟩
      exact ⟨row, s, ⟨s, s, ⟨rfl, rfl⟩, row, s, ⟨hrow, rfl⟩, ⟨⟩, s, ⟨htoken, rfl⟩, rfl, rfl⟩, hs'⟩
  cases x <;> exact hclaimed _

/-- **A stale settlement changes nothing.** -/
theorem Settlement.commit_stale (x : Settlement)
    (hstale : ∀ row, s.events.get? k = some row → row.claimToken ≠ some token) :
    commit (x.run k token) s = s := by
  refine commit_induction (P := fun s' => s' = s) rfl fun _ _ hok => ?_
  obtain ⟨row, hrow, htoken, _⟩ := run_eq_ok.mp hok
  exact absurd htoken (hstale row hrow)

theorem Settlement.effect (x : Settlement) {u : PUnit}
    (hx : ∀ row, s.events.get? k = some row → ∀ reason, x = .published reason →
      handlers row.eventName = none) (h : x.run k token s = .ok u s') : Effect handlers s s' := by
  obtain ⟨row, hrow, htoken, rfl⟩ := run_eq_ok.mp h
  refine Effect.modified fun row' hrow' => ?_
  obtain rfl : row = row' := Option.mem_unique hrow hrow'
  refine ⟨?_, fun hnone => ?_, fun hpublished => ?_⟩
  · cases x with
    | retry message errorClass =>
      simp only [Settlement.row, retried, releaseLease]
      split_ifs <;> rfl
    | _ => rfl
  · rw [hnone] at htoken
    exact absurd htoken (by simp)
  · cases x with
    | published reason => exact Or.inr (hx row hrow reason rfl)
    | retry message errorClass =>
      simp only [Settlement.row, retried, releaseLease] at hpublished
      split_ifs at hpublished
    | _ => simp [Settlement.row, deadLettered, releaseLease] at hpublished

/-! ### The transactions of the relay -/

theorem effect_settle {x : Settlement} {outcome ifRaised : RelayOutcome}
    (hx : ∀ row, s.events.get? k = some row → ∀ reason, x = .published reason →
      handlers row.eventName = none) :
    Effect handlers s (settle (x.run k token) outcome ifRaised s).1 := by
  rw [settle]
  split
  · next hok => exact x.effect hx hok
  · exact Effect.same rfl rfl rfl
  · exact Effect.same rfl rfl rfl

theorem settle_stale {x : Settlement} {outcome ifRaised : RelayOutcome}
    (hstale : ∀ row, s.events.get? k = some row → row.claimToken ≠ some token) :
    (settle (x.run k token) outcome ifRaised s).1 = s := by
  rw [settle]
  split
  · next hok =>
    obtain ⟨row, hrow, htoken, _⟩ := Settlement.run_eq_ok.mp hok
    exact absurd htoken (hstale row hrow)
  · rfl
  · rfl

theorem deliver_eq_ok {handler : EventOutbox → Session OutboxError β PUnit} {row : EventOutbox}
    {u : PUnit}
    (h : (do applyHandler handler k row
             markPublished k token none : OutboxSession β PUnit) s = .ok u s') :
    ∃ row' business, s.events.get? k = some row' ∧ row'.claimToken = some token ∧
      handler row s.business = .ok ⟨⟩ business ∧
      s' = ({ s with business }.mark k .applied).modifyEvent k
        (OutboxPublisher.published s.clock none) := by
  obtain ⟨_, s₁, hhandler, hpublished⟩ := bind_eq_ok.mp h
  rw [applyHandler] at hhandler
  split at hhandler
  · next business hran =>
    obtain rfl : _ = s₁ := by simpa using hhandler
    obtain ⟨row', hrow', htoken, rfl⟩ :=
      (Settlement.run_eq_ok (x := .published none)).mp hpublished
    exact ⟨row', business, hrow', htoken, hran, rfl⟩
  · exact absurd hhandler (by simp)

def RelayPc.held : RelayPc → List ClaimedEvent
  | delivering _ claimed _ => claimed
  | settlingFailure _ event _ claimed _ => event :: claimed
  | markingDead .. => []

/-- What a worker knows of the events it holds: their rows are there, under the names it took
them with. -/
def RelayPc.Knows (s : OutboxStore β) (pc : RelayPc) : Prop :=
  ∀ event ∈ pc.held, ∃ row, s.events.get? event.eventId = some row ∧
    row.eventName = event.eventName

namespace RelayPc

def presents : RelayPc → Option (UUID × UUID)
  | delivering token (event :: _) _ => some (event.eventId, token)
  | settlingFailure token event _ _ _ => some (event.eventId, token)
  | _ => none

end RelayPc

variable {event : ClaimedEvent}

theorem effect_deliverOne {claimed : List ClaimedEvent} {outcomes : List RelayOutcome}
    (hname : ∃ row, s.events.get? event.eventId = some row ∧
      row.eventName = event.eventName) :
    Effect handlers s (deliverOne handlers token event claimed outcomes s).1 := by
  rw [deliverOne]
  split
  · next hnone =>
    -- no handler: a settlement, which may publish
    have hx : ∀ row, s.events.get? event.eventId = some row → handlers row.eventName = none := by
      intro row hrow
      obtain ⟨row₀, hrow₀, hname⟩ := hname
      obtain rfl : row₀ = row := Option.mem_unique hrow₀ hrow
      rw [hname, hnone]
    simp only [next, settleWithoutHandler]
    split_ifs
    · exact effect_settle (x := .published (some .declaredNoConsequence))
        fun row hrow _ _ => hx row hrow
    · exact effect_settle (x := .unsupported) fun row hrow _ _ => hx row hrow
  · next handler hhandler =>
    split
    · exact effect_settle (x := .dead "Event headers carry no valid organization_id"
        (some "MissingOrganizationContext") .missingOrganizationContext) (by simp)
    · exact Effect.same rfl rfl rfl
    · next _ row _ hrow =>
      split
      · next hok =>
        obtain ⟨row', business, hrow', htoken, hran, rfl⟩ := deliver_eq_ok hok
        obtain ⟨row₀, hrow₀, hname⟩ := hname
        obtain rfl : row = row₀ := Option.mem_unique hrow hrow₀
        rw [← hname] at hhandler
        exact .delivered event.eventId row' hrow' (by rw [htoken]; simp) rfl rfl
          ⟨row, handler, hrow, hhandler, hran⟩
      · exact Effect.same rfl rfl rfl
      · exact Effect.same rfl rfl rfl

theorem deliverOne_stale {claimed : List ClaimedEvent} {outcomes : List RelayOutcome}
    (hstale : ∀ row, s.events.get? event.eventId = some row → row.claimToken ≠ some token) :
    (deliverOne handlers token event claimed outcomes s).1 = s := by
  rw [deliverOne]
  split
  · simp only [next, settleWithoutHandler]
    split_ifs
    · exact settle_stale (x := .published (some .declaredNoConsequence)) hstale
    · exact settle_stale (x := .unsupported) hstale
  · split
    · exact settle_stale (x := .dead "Event headers carry no valid organization_id"
        (some "MissingOrganizationContext") .missingOrganizationContext) hstale
    · rfl
    · split
      · next hok =>
        obtain ⟨row, _, hrow, htoken, _, _⟩ := deliver_eq_ok hok
        exact absurd htoken (hstale row hrow)
      · rfl
      · rfl

theorem effect_settleFailure {exc : OutboxError} :
    Effect handlers s (settleFailure token event exc s).1 := by
  cases exc with
  | nonRetryable message =>
    exact effect_settle (x := .dead message (some (OutboxError.nonRetryable message).className)
      .invalidPayload) (by simp)
  | _ => exact effect_settle (x := .retry _ _) (by simp)

theorem settleFailure_stale {exc : OutboxError}
    (hstale : ∀ row, s.events.get? event.eventId = some row → row.claimToken ≠ some token) :
    (settleFailure token event exc s).1 = s := by
  cases exc with
  | nonRetryable message =>
    exact settle_stale (x := .dead message (some (OutboxError.nonRetryable message).className)
      .invalidPayload) hstale
  | _ => exact settle_stale (x := .retry _ _) hstale

/-- Whatever `mark_dead` had loaded, its flush keeps the row. -/
theorem kept_flushed (now : ℕ) (message : String) (errorClass : Option String)
    (reason : TerminalReason) (loaded row : EventOutbox) :
    Kept handlers row (flushed loaded (deadLettered now message errorClass reason loaded) row) where
  eventName := rfl
  settled := by
    intro htoken hterminal
    refine ⟨?_, ?_⟩
    · simp [flushed, deadLettered, releaseLease, htoken]
    · by_cases hloaded : EventStatus.dead = loaded.status
      · simpa [flushed, deadLettered, releaseLease, EventOutbox.Terminal, hloaded] using hterminal
      · simp [flushed, deadLettered, releaseLease, EventOutbox.Terminal, hloaded]
  published := by
    intro hpublished
    by_cases hloaded : EventStatus.dead = loaded.status
    · exact Or.inl (by simpa [flushed, deadLettered, releaseLease, hloaded] using hpublished)
    · simp [flushed, deadLettered, releaseLease, hloaded] at hpublished

variable {pc : RelayPc}

theorem effect_advance (h : pc.Knows s) :
    Effect handlers s (pc.advance handlers s).1 := by
  cases pc with
  | delivering token claimed outcomes =>
    cases claimed with
    | nil => exact Effect.same rfl rfl rfl
    | cons event claimed => exact effect_deliverOne (h event (by simp [RelayPc.held]))
  | settlingFailure token event exc claimed outcomes => exact effect_settleFailure
  | markingDead k loaded message errorClass reason =>
    exact Effect.modified fun row _ => kept_flushed _ _ _ _ _ _

theorem advance_stale (hpc : pc.presents = some (k, token))
    (hstale : ∀ row, s.events.get? k = some row → row.claimToken ≠ some token) :
    (pc.advance handlers s).1 = s := by
  cases pc with
  | delivering token' claimed outcomes =>
    cases claimed with
    | nil => simp [RelayPc.presents] at hpc
    | cons event claimed =>
      obtain ⟨rfl, rfl⟩ : event.eventId = k ∧ token' = token := by
        simpa [RelayPc.presents] using hpc
      exact deliverOne_stale hstale
  | settlingFailure token' event exc claimed outcomes =>
    obtain ⟨rfl, rfl⟩ : event.eventId = k ∧ token' = token := by
      simpa [RelayPc.presents] using hpc
    exact settleFailure_stale hstale
  | markingDead => simp [RelayPc.presents] at hpc

/-! ### The calls -/

variable {batchSize : ℕ} {locked : List UUID}

theorem mem_claimable {maxRetries : ℕ} {r : Stored EventOutbox}
    (h : r ∈ claimable s maxRetries batchSize locked) :
    s.events.get? r.id = some r.row ∧ deliverable s.clock maxRetries r.row = true := by
  have hsorted := List.mem_of_mem_take h
  have hfilter := (List.mem_insertionSort _).mp hsorted
  exact Table.mem_select.mp (List.mem_of_mem_filter hfilter)

variable {workerId : String} {lease : Option ℕ} {rows : List (Stored EventOutbox)}

theorem claimPendingEvents_eq_ok {maxRetries : Option ℕ}
    (h : claimPendingEvents workerId batchSize maxRetries lease token locked s = .ok rows s') :
    ∃ maxRetries lease, rows = claimable s maxRetries batchSize locked ∧
      s' = { s with events := claimRows s rows lease workerId token } := by
  obtain ⟨rfl, rfl⟩ : _ = rows ∧ _ = s' := EStateM.Result.ok.inj h
  exact ⟨_, _, rfl, rfl⟩

theorem claimPendingEvents_stored {maxRetries : Option ℕ}
    (h : claimPendingEvents workerId batchSize maxRetries lease token locked s = .ok rows s') :
    ∀ r ∈ rows, s.events.get? r.id = some r.row := by
  obtain ⟨_, _, rfl, _⟩ := claimPendingEvents_eq_ok h
  exact fun r hr => (mem_claimable hr).1

theorem effect_claim {maxRetries : Option ℕ}
    (h : claimPendingEvents workerId batchSize maxRetries lease token locked s = .ok rows s') :
    Effect handlers s s' := by
  obtain ⟨maxRetries, lease, rfl, rfl⟩ := claimPendingEvents_eq_ok h
  refine .kept (fun k row' hrow' => ?_) (fun k row hrow => ?_) rfl rfl
  · rw [claimRows, Table.get?_mapRows, Option.map_eq_some_iff] at hrow'
    obtain ⟨row, hrow, rfl⟩ := hrow'
    refine ⟨row, hrow, ?_⟩
    split_ifs with hmem
    · -- a claimed row was deliverable, hence neither settled nor claimed for good
      obtain ⟨r, hr, hid⟩ := List.mem_map.mp hmem
      obtain ⟨hr', hdeliverable⟩ := mem_claimable hr
      rw [hid, hrow] at hr'
      obtain rfl : row = r.row := Option.some.inj hr'
      have hopen : r.row.status = .pending ∨ r.row.status = .failed := by
        simp only
          [deliverable, Bool.and_eq_true, Bool.or_eq_true, decide_eq_true_eq] at hdeliverable
        exact hdeliverable.1.1.1
      refine ⟨rfl, fun _ hterminal => ?_, fun hpublished => Or.inl hpublished⟩
      rcases hopen with h | h <;> simp [EventOutbox.Terminal, h] at hterminal
    · exact Kept.refl row
  · rw [claimRows, Table.get?_mapRows, hrow]
    exact ⟨_, rfl⟩

theorem effect_publishEvent {name producer key : String} {org : Option UUID} {u : UUID}
    (h : publishEvent name producer org key s = .ok u s') : Effect handlers s s' := by
  simp only [publishEvent, bind_eq_ok, get_eq_ok, refuse_eq_ok, set_eq_ok, pure_eq_ok] at h
  obtain ⟨s₁, _, ⟨rfl, rfl⟩, _, _, ⟨_, rfl⟩, _, _, rfl, rfl, rfl⟩ := h
  refine .reset _ _ (Table.get?_insert_self _ _) rfl rfl (fun row hrow => ?_)
    (fun j hj => ?_) rfl rfl
  · rw [Table.get?_next] at hrow
    exact absurd hrow (by simp)
  · exact (Table.get?_insert _ _ j).trans (if_neg hj)

theorem effect_reset {f : EventOutbox → EventOutbox} {row : EventOutbox}
    (hrow : s.events.get? k = some row) (hpending : (f row).status = .pending)
    (hunclaimed : (f row).claimToken = none) (hname : (f row).eventName = row.eventName) :
    Effect handlers s ((s.modifyEvent k f).mark k .reset) := by
  refine .reset k (f row) ?_ hpending hunclaimed (fun row' hrow' => ?_) (fun j hj => ?_) rfl rfl
  · exact (Table.get?_modify_self _ _ _).trans (by rw [hrow]; rfl)
  · obtain rfl : row = row' := Option.mem_unique hrow hrow'
    exact hname
  · exact Table.get?_modify_of_ne hj _

theorem effect_requeueDeadEvent {u : PUnit} (h : requeueDeadEvent k s = .ok u s') :
    Effect handlers s s' := by
  simp only [requeueDeadEvent, requireReplayablePayload, bind_eq_ok, get_eq_ok, orRaise_eq_ok,
    refuse_eq_ok, modify_eq_ok] at h
  obtain ⟨s₁, _, ⟨rfl, rfl⟩, row, _, ⟨hrow, rfl⟩, _, _, ⟨_, rfl⟩, _, _, ⟨_, rfl⟩, rfl⟩ := h
  exact effect_reset hrow rfl rfl rfl

theorem effect_retryDeadEvent {actorId reason : String} {u : PUnit}
    (h : retryDeadEvent k actorId reason s = .ok u s') : Effect handlers s s' := by
  simp only [retryDeadEvent, requireReplayablePayload, bind_eq_ok, get_eq_ok, orRaise_eq_ok,
    refuse_eq_ok, modify_eq_ok] at h
  obtain ⟨_, _, ⟨_, rfl⟩, _, _, ⟨_, rfl⟩, s₁, _, ⟨rfl, rfl⟩, row, _, ⟨hrow, rfl⟩, _, _, ⟨_, rfl⟩, _,
    _, ⟨_, rfl⟩, rfl⟩ := h
  exact effect_reset hrow rfl rfl rfl

theorem effect_transaction {α : Type} {x : OutboxSession β α}
    (h : ∀ a s', x s = .ok a s' → Effect handlers s s') :
    Effect handlers s (transaction x s).1 := by
  rw [transaction]
  split
  · next hok => exact h _ _ hok
  · exact Effect.same rfl rfl rfl

theorem effect_start (handlers : Handlers β) {c : RelayCall β} (hc : ∀ b, c ≠ .business b) :
    Effect handlers s (c.start s).1 := by
  cases c with
  | publishEvent => exact effect_transaction fun _ _ => effect_publishEvent
  | relayOutboxEvents =>
    simp only [RelayCall.start, claimBatch]
    split
    · next hok => split_ifs <;> exact effect_claim hok
    · exact Effect.same rfl rfl rfl
  | markDead k =>
    simp only [RelayCall.start]
    split <;> exact Effect.same rfl rfl rfl
  | requeueDeadEvent => exact effect_transaction fun _ _ => effect_requeueDeadEvent
  | retryDeadEvent => exact effect_transaction fun _ _ => effect_retryDeadEvent
  | purgeEmail k =>
    exact Effect.modified fun row _ => ⟨rfl, fun ht hs => ⟨ht, hs⟩, fun hp => Or.inl hp⟩
  | tick => exact Effect.same rfl rfl rfl
  | business b => exact absurd rfl (hc b)

/-! ### Runs -/

theorem RelayPc.Knows.effect (h : pc.Knows s) (he : Effect handlers s s') :
    pc.Knows s' := by
  intro event hevent
  obtain ⟨row, hrow, hname⟩ := h event hevent
  obtain ⟨row', hrow', hname'⟩ := he.eventName hrow
  exact ⟨row', hrow', hname'.trans hname⟩

theorem held_advance {pc' : RelayPc} (h : (pc.advance handlers s).2.pc? = some pc') :
    ∀ event ∈ pc'.held, event ∈ pc.held := by
  cases pc with
  | delivering token claimed outcomes =>
    cases claimed with
    | nil => simp [RelayPc.advance] at h
    | cons event claimed =>
      simp only [RelayPc.advance, deliverOne, next] at h
      split at h
      · obtain rfl := Option.some.inj h
        exact fun e he => List.mem_cons_of_mem _ he
      · split at h
        · obtain rfl := Option.some.inj h
          exact fun e he => List.mem_cons_of_mem _ he
        · obtain rfl := Option.some.inj h
          exact fun e he => List.mem_cons_of_mem _ he
        · split at h <;> obtain rfl := Option.some.inj h
          · exact fun e he => List.mem_cons_of_mem _ he
          · exact fun e he => List.mem_cons_of_mem _ he
          · exact fun e he => he
  | settlingFailure token event exc claimed outcomes =>
    simp only [RelayPc.advance, next] at h
    obtain rfl := Option.some.inj h
    exact fun e he => List.mem_cons_of_mem _ he
  | markingDead => simp [RelayPc.advance] at h

theorem knows_start {c : RelayCall β} (h : (c.start s).2.pc? = some pc) :
    pc.Knows s := by
  cases c with
  | relayOutboxEvents =>
    simp only [RelayCall.start, claimBatch] at h
    split at h
    · next rows s₁ hok =>
      split_ifs at h
      · simp at h
      · obtain rfl := Option.some.inj h
        intro event hevent
        obtain ⟨r, hr, rfl⟩ := List.mem_map.mp hevent
        exact ⟨r.row, claimPendingEvents_stored hok r hr, rfl⟩
    · simp at h
  | markDead k =>
    simp only [RelayCall.start] at h
    split at h
    · simp at h
    · obtain rfl := Option.some.inj h
      intro event hevent
      simp [RelayPc.held] at hevent
  | publishEvent | requeueDeadEvent | retryDeadEvent =>
    simp only [RelayCall.start, transaction] at h
    split at h <;> simp at h
  | purgeEmail | tick | business => simp [RelayCall.start] at h

/-- What anybody else commits leaves the outbox alone. -/
theorem start_cases (handlers : Handlers β) (c : RelayCall β) (s : OutboxStore β) :
    Effect handlers s (c.start s).1 ∨ ∃ b, c = .business b ∧
      c.start s = ({ s with business := b }, .returned .done) := by
  by_cases hc : ∃ b, c = .business b
  · obtain ⟨b, rfl⟩ := hc
    exact Or.inr ⟨b, rfl, rfl⟩
  · exact Or.inl (effect_start handlers fun b hb => hc ⟨b, hb⟩)

theorem keeps (handlers : Handlers β) :
    (relayProgram handlers).Keeps Once (fun s pc => pc.Knows s) where
  start := fun c s h => by
    rcases start_cases handlers c s with heffect | ⟨b, rfl, -⟩
    · exact ⟨h.effect heffect, fun _ hpc => (knows_start hpc).effect heffect⟩
    · exact ⟨⟨h.separated, h.spent⟩, fun _ hpc => by simp [relayProgram, RelayCall.start] at hpc⟩
  advance := fun _ _ h hknows => ⟨h.effect (effect_advance hknows), fun _ hpc' =>
    RelayPc.Knows.effect (fun event hevent => hknows event (held_advance hpc' event hevent))
      (effect_advance hknows)⟩
  start_other := fun c s _ _ hknows => by
    rcases start_cases handlers c s with heffect | ⟨b, rfl, -⟩
    · exact hknows.effect heffect
    · exact hknows
  advance_other := fun _ _ _ _ hknows hknows' => hknows'.effect (effect_advance hknows)

theorem effect_apply {p : Pool (OutboxStore β) RelayPc}
    (h : Holds Once (fun s pc => RelayPc.Knows s pc) p) (e : Pool.Event (RelayCall β)) :
    Effect handlers p.store ((relayProgram handlers).apply p e).store ∨
      ∃ w b, e = .call w (.business b) ∧
        ((relayProgram handlers).apply p e).store.events = p.store.events ∧
        ((relayProgram handlers).apply p e).store.marks = p.store.marks := by
  cases e with
  | call w c =>
    simp only [Program.apply]
    cases hw : p.workers w with
    | none =>
      rcases start_cases handlers c p.store with heffect | ⟨b, rfl, -⟩
      · exact Or.inl heffect
      · exact Or.inr ⟨w, b, rfl, rfl, rfl⟩
    | some pc => exact Or.inl (Effect.same rfl rfl rfl)
  | advance w =>
    simp only [Program.apply]
    cases hw : p.workers w with
    | none => exact Or.inl (Effect.same rfl rfl rfl)
    | some pc => exact Or.inl (effect_advance (h.2 w pc hw))
  | crash w => exact Or.inl (Effect.same rfl rfl rfl)

/-- **Outbox effects apply once per life.** In every interleaving of relays, lease takeovers,
administrators and crashes:
between two resets of an event at most one delivery of it commits;
a delivery is what its handler made of the business state, and but for what anybody else commits
that state changes by a delivery only;
an event with a handler becomes PUBLISHED only by the transaction that commits its handler's
mutations;
a settlement presented with a token that is not the row's changes nothing, and neither does the
whole transaction of a worker that presents one. -/
theorem outbox_effects_once (handlers : Handlers β) {p : Pool (OutboxStore β) RelayPc}
    (h : (relaySystem handlers).Reachable p) :
    (∀ k, Separated .applied .reset (p.store.marks k)) ∧
      (∀ e s', s' = ((relayProgram handlers).apply p e).store →
        (∀ k, s'.marks k = .applied :: p.store.marks k → Delivers handlers p.store s' k) ∧
        (s'.business ≠ p.store.business → (∃ w b, e = .call w (.business b)) ∨
          ∃ k, Delivers handlers p.store s' k ∧ s'.marks k = .applied :: p.store.marks k) ∧
        ∀ k row', s'.events.get? k = some row' → row'.status = .published →
          (handlers row'.eventName).isSome →
            (∃ row, p.store.events.get? k = some row ∧ row.status = .published) ∨
              (Delivers handlers p.store s' k ∧ s'.marks k = .applied :: p.store.marks k)) ∧
      ∀ k token, (∀ row, p.store.events.get? k = some row → row.claimToken ≠ some token) →
        (∀ x : Settlement, commit (x.run k token) p.store = p.store) ∧
          ∀ pc : RelayPc, pc.presents = some (k, token) →
            (pc.advance handlers p.store).1 = p.store := by
  have hinit : ∀ s : OutboxStore β, s.events = Table.empty ∧ (∀ k, s.marks k = []) → Once s := by
    rintro s ⟨hevents, hmarks⟩
    refine ⟨fun k => by rw [hmarks k]; exact separated_nil, fun k row hrow => ?_⟩
    rw [hevents] at hrow
    exact absurd hrow (by simp)
  have hholds := Program.invariant (keeps handlers) hinit h
  refine ⟨hholds.1.separated, fun e s' hs' => ?_,
    fun k token hstale => ⟨fun x => x.commit_stale hstale, fun pc hpc => advance_stale hpc hstale⟩⟩
  rcases effect_apply hholds e with heffect | ⟨w, b, he, hevents, hmarks⟩
  · rw [← hs'] at heffect
    exact ⟨fun k => heffect.applied, fun hchange => Or.inr (heffect.business hchange),
      fun k row' => heffect.published⟩
  · rw [← hs'] at hevents hmarks
    refine ⟨fun k hmark => ?_, fun _ => Or.inl ⟨w, b, he⟩, fun k row' hrow' hpublished _ => ?_⟩
    · simp [hmarks] at hmark
    · exact Or.inl ⟨row', hevents ▸ hrow', hpublished⟩

def countingHandlers : Handlers ℕ := fun name =>
  if name = "ledger.posting.completed" then some fun _ => modify (· + 1) else none

/-- An event is published, claimed by a relay that goes down, claimed again after the lease and
delivered; the first claimant would come too late. -/
def takenOver : List (Pool.Event (RelayCall ℕ)) :=
  [.call 0 (.publishEvent "ledger.posting.completed" "gl" (some 7) "posting-1"),
   .call 0 (.relayOutboxEvents "a:1" 100 5 300 41 []),
   .call 1 (.tick 301),
   .call 1 (.relayOutboxEvents "b:2" 100 5 300 42 []),
   .advance 1, .advance 0]

def afterCalls (n : ℕ) : Pool (OutboxStore ℕ) RelayPc :=
  (relayProgram countingHandlers).run (Pool.idle { business := 0 }) (takenOver.take n)

/-- The delivery of the second claimant runs the handler, that of the first changes nothing: the
counter is at one. -/
theorem outbox_effects_once_sample :
    (∀ k, Separated .applied .reset ((afterCalls 6).store.marks k)) ∧
      Delivers countingHandlers (afterCalls 4).store (afterCalls 5).store 0 ∧
      (afterCalls 4).store.business = 0 ∧ (afterCalls 6).store.business = 1 ∧
      (afterCalls 6).store.marks 0 = [.applied, .reset] := by
  have hreachable : ∀ n, (relaySystem countingHandlers).Reachable (afterCalls n) :=
    fun n => reachable_run ⟨rfl, fun _ => rfl⟩ (takenOver.take n)
  obtain ⟨-, hsteps, -⟩ := outbox_effects_once countingHandlers (hreachable 4)
  obtain ⟨happlied, -, -⟩ := hsteps (.advance 1) _ rfl
  have hfive : (afterCalls 5).store =
      ((relayProgram countingHandlers).apply (afterCalls 4) (.advance 1)).store := rfl
  refine ⟨(outbox_effects_once countingHandlers (hreachable 6)).1, hfive ▸ happlied 0 ?_, ?_, ?_,
    ?_⟩
  all_goals decide +kernel

end DotmacErp.Outbox
