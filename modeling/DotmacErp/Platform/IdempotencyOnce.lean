import DotmacErp.Platform.Idempotency

/-!
# Requests execute once

What the idempotency of a key promises (`ExecutesOnce`): each reservation is executed under at most
once, a lapsed one is taken over at most once and its executor never records a response, a request
of another body does not execute while the record is alive, and every request that ends without
executing replays.
-/

namespace DotmacErp.Idempotency

open Relational

/-! ### What is promised -/

def EndsWell (requestHash : RequestHash) (c : ℕ) (s : IdempotencyStore) : RequestOutcome → Prop
  | .executed => ∃ e ∈ s.executions, e.client = c
  | .released => ∃ e ∈ s.executions, e.client = c
  | .replayed _ _ => ∀ e ∈ s.executions, e.client ≠ c
  | .refused other => (∀ e ∈ s.executions, e.client ≠ c) ∧ other ≠ "" ∧ other ≠ requestHash.text
  | .failed => False

/-- The row is no longer held as a record has it: it has a response, or was taken over. -/
def HoldGone (s : IdempotencyStore) (record : IdempotencyRecord) : Prop :=
  ∀ r, s.row = some r → r.recordId = record.recordId → r.responseStatus ≠ reservationStatus ∨
    ∃ e ∈ s.executions, e.takenFrom = some record.reservation

/-- A reservation is executed once, and taken over once after its lease. -/
structure ExecutesOnce (body : ℕ → RequestHash) (g : RequestConfig) : Prop where
  single : (g.shared.executions.map Execution.reservation).Nodup
  takenOnce : (g.shared.executions.filterMap Execution.takenFrom).Nodup
  lapsed : ∀ e ∈ g.shared.executions, ∀ taken, e.takenFrom = some taken →
    taken.createdAt + reservationLease < e.startedAt ∧ taken ∉ g.shared.finished
  sameBody : ∀ e ∈ g.shared.executions, e.recordHash = (body e.client).text
  alive : g.shared.executions.Pairwise fun e later =>
    (body e.client).text ≠ (body later.client).text →
      e.expiresAt < later.startedAt ∨ e.client ∈ g.shared.withdrawn
  ended : ∀ c outcome, g.locals c = .ended outcome → EndsWell (body c) c g.shared outcome
  lost : ∀ c record, g.locals c = .rereading record → HoldGone g.shared record

/-- The row with a key is there. -/
def Present (s : IdempotencyStore) (recordId : UUID) : Prop :=
  ∃ r, s.row = some r ∧ r.recordId = recordId

/-- The steps on which the promise is kept. A request whose insertion lost to another row finds one
of another body, no row goes between its reading and the statement that follows, and an executor
records its response within its lease. -/
def StepMeets (v : Variant) (requestHash : RequestHash) (s : IdempotencyStore) :
    RequestPhase → Prop
  | .takingOver record _ => Present s record.recordId
  | .rereading record => Present s record.recordId
  | .rechecking =>
    match v with
    | .committing => ∃ other, check s.clock requestHash s.row = .conflict other
    | .transactional => s.row.isSome
  | .recording reservation found _ =>
    s.clock ≤ reservation.createdAt + reservationLease ∧
      (v = .committing → s.row.map (·.recordId) = found)
  | _ => True

/-- The operations on which the promise is kept. -/
def Meets (v : Variant) (body : ℕ → RequestHash) (g : RequestConfig) : RequestOp → Prop
  | .step c => StepMeets v (body c) g.shared (g.locals c)
  | _ => True

/-! ### The store, when each write commits -/

section Committing

variable {body : ℕ → RequestHash} {s s' : IdempotencyStore} {c : ℕ} {q r : IdempotencyRecord}
  {e : Execution} {phase : RequestPhase}

structure Carries (q : IdempotencyRecord) (e : Execution) : Prop where
  id : q.recordId = e.reservation.recordId
  hash : q.requestHash = e.recordHash
  expires : q.expiresAt = e.expiresAt
  later : e.reservation.createdAt ≤ q.createdAt

structure StoreSound (body : ℕ → RequestHash) (s : IdempotencyStore) : Prop where
  closed : s.pending = none
  filed : ∀ q, s.row = some q → q.recordId < s.nextId
  hashed : ∀ q, s.row = some q → q.responseStatus = reservationStatus → q.requestHash ≠ ""
  known : ∀ e ∈ s.executions, e.reservation.recordId < s.nextId ∧ e.startedAt ≤ s.clock ∧
    e.recordHash = (body e.client).text
  current : ∀ e ∈ s.executions, (∃ q, s.row = some q ∧ Carries q e) ∨
    ((∀ q, s.row = some q → q.recordId ≠ e.reservation.recordId) ∧ e.expiresAt < s.clock)
  taken : ∀ e ∈ s.executions, ∀ held, e.takenFrom = some held →
    held.recordId = e.reservation.recordId ∧
      held.createdAt + reservationLease < e.reservation.createdAt ∧
      e.reservation.createdAt ≤ e.startedAt ∧ held ∉ s.finished
  finished : ∀ held ∈ s.finished, (∃ e ∈ s.executions, e.reservation = held) ∧
    ∀ q, s.row = some q → q.reservation = held → q.responseStatus ≠ reservationStatus
  single : (s.executions.map Execution.reservation).Nodup
  takenOnce : (s.executions.filterMap Execution.takenFrom).Nodup
  alive : s.executions.Pairwise fun e later =>
    (body e.client).text ≠ (body later.client).text →
      e.expiresAt < later.startedAt ∨ e.client ∈ s.withdrawn

theorem StoreSound.tick (h : StoreSound body s) (seconds : ℕ) :
    StoreSound body { s with clock := s.clock + seconds } := by
  refine ⟨h.closed, h.filed, h.hashed, fun e he => ?_, fun e he => ?_, h.taken, h.finished,
    h.single, h.takenOnce, h.alive⟩
  · obtain ⟨hid, hstarted, hbody⟩ := h.known e he
    exact ⟨hid, by dsimp only; omega, hbody⟩
  · refine (h.current e he).imp_right fun hgone => ⟨hgone.1, ?_⟩
    have := hgone.2
    dsimp only
    omega

theorem StoreSound.remove (h : StoreSound body s) (recordId : UUID)
    (hexpired : ∀ q, s.row = some q → q.recordId = recordId → q.expiresAt < s.clock) :
    StoreSound body { s with row := s.row.filter (·.recordId ≠ recordId) } := by
  have hkept : ∀ q, s.row.filter (·.recordId ≠ recordId) = some q → s.row = some q :=
    fun q hq => (Option.filter_eq_some_iff.mp hq).1
  refine ⟨h.closed, fun q hq => h.filed q (hkept q hq), fun q hq => h.hashed q (hkept q hq),
    h.known, fun e he => ?_, h.taken, fun held hheld => ?_, h.single, h.takenOnce, h.alive⟩
  · rcases h.current e he with ⟨q, hq, hcarries⟩ | ⟨hgone, hlate⟩
    · by_cases hid : q.recordId = recordId
      · refine .inr ⟨fun q' hq' => ?_, hcarries.expires ▸ hexpired q hq hid⟩
        obtain ⟨hrow, hne⟩ := Option.filter_eq_some_iff.mp hq'
        obtain rfl : q = q' := Option.mem_unique hq hrow
        exact absurd hid (of_decide_eq_true hne)
      · exact .inl ⟨q, Option.filter_eq_some_iff.mpr ⟨hq, decide_eq_true hid⟩, hcarries⟩
    · exact .inr ⟨fun q hq => hgone q (hkept q hq), hlate⟩
  · obtain ⟨hexec, hanswered⟩ := h.finished held hheld
    exact ⟨hexec, fun q hq => hanswered q (hkept q hq)⟩

theorem StoreSound.later (h : StoreSound body s) (hrow : s.row = some q) (he : e ∈ s.executions)
    (hid : q.recordId = e.reservation.recordId) : e.reservation.createdAt ≤ q.createdAt := by
  rcases h.current e he with ⟨q', hq', hcarries⟩ | ⟨hgone, -⟩
  · obtain rfl : q = q' := Option.mem_unique hrow hq'
    exact hcarries.later
  · exact absurd hid (hgone q hrow)

/-- **A reservation** of a key that has no row. -/
theorem StoreSound.reserve (h : StoreSound body s) (hrow : s.row = none) (c : ℕ)
    (begun : Option ℤ) :
    StoreSound body (begin c none (reservationRow s (body c) begun)
      { s with row := some (reservationRow s (body c) begun), nextId := s.nextId + 1 }).1 := by
  have hlate : ∀ e ∈ s.executions, e.expiresAt < s.clock := by
    intro e he
    rcases h.current e he with ⟨q, hq, -⟩ | ⟨-, hlate⟩
    · exact absurd (hrow.symm.trans hq) (by simp)
    · exact hlate
  have hnew : (reservationRow s (body c) begun).reservation ∉
      s.executions.map Execution.reservation := by
    intro hmem
    obtain ⟨e, he, heq⟩ := List.mem_map.mp hmem
    exact absurd (congrArg Reservation.recordId heq) (h.known e he).1.ne
  refine ⟨h.closed, fun q hq => ?_, fun q hq _ => ?_, fun e he => ?_, fun e he => ?_,
    fun e he held hheld => ?_, fun held hheld => ?_, ?_, ?_, ?_⟩
  · obtain rfl := Option.some.inj hq
    exact Nat.lt_succ_self _
  · obtain rfl := Option.some.inj hq
    exact (body c).nonempty
  · rcases List.mem_append.mp he with he | he
    · obtain ⟨hid, hrest⟩ := h.known e he
      exact ⟨Nat.lt_succ_of_lt hid, hrest⟩
    · obtain rfl := List.mem_singleton.mp he
      exact ⟨Nat.lt_succ_self _, le_rfl, rfl⟩
  · rcases List.mem_append.mp he with he | he
    · refine .inr ⟨fun q hq => ?_, hlate e he⟩
      obtain rfl := Option.some.inj hq
      exact (h.known e he).1.ne'
    · obtain rfl := List.mem_singleton.mp he
      exact .inl ⟨_, rfl, rfl, rfl, rfl, le_rfl⟩
  · rcases List.mem_append.mp he with he | he
    · exact h.taken e he held hheld
    · obtain rfl := List.mem_singleton.mp he
      exact absurd hheld (by simp)
  · obtain ⟨⟨e, he, heq⟩, -⟩ := h.finished held hheld
    refine ⟨⟨e, List.mem_append_left _ he, heq⟩, fun q hq hsame => ?_⟩
    -- a hold that is finished is not the new one
    obtain rfl := Option.some.inj hq
    exact absurd (List.mem_map.mpr ⟨e, he, heq.trans hsame.symm⟩) hnew
  · rw [begin, List.map_append, List.nodup_append']
    refine ⟨h.single, List.nodup_singleton _, fun held hmem hlast => ?_⟩
    obtain rfl := List.mem_singleton.mp hlast
    exact hnew hmem
  · rw [begin, List.filterMap_append]
    simpa using h.takenOnce
  · refine List.pairwise_append.mpr ⟨h.alive, List.pairwise_singleton _ _, fun e he later hl _ =>
      ?_⟩
    obtain rfl := List.mem_singleton.mp hl
    exact .inl (hlate e he)

/-- **A take-over** of a lapsed reservation. -/
theorem StoreSound.takeOver (h : StoreSound body s) (hrow : s.row = some q) {now : ℤ}
    (hstale : isStaleReservation q now) (hnow : now ≤ s.clock)
    (hhash : q.requestHash = (body c).text) :
    StoreSound body (begin c (some q.reservation) { q with createdAt := now }
      { s with row := some { q with createdAt := now } }).1 := by
  obtain ⟨hstatus, hlapsed⟩ := hstale
  have hlease : (0 : ℤ) < reservationLease := by decide
  have hnew : (⟨q.recordId, now⟩ : Reservation) ∉ s.executions.map Execution.reservation := by
    intro hmem
    obtain ⟨e, he, heq⟩ := List.mem_map.mp hmem
    have hlater : now ≤ q.createdAt := (congrArg Reservation.createdAt heq).symm.trans_le
      (h.later hrow he (congrArg Reservation.recordId heq).symm)
    omega
  refine ⟨h.closed, fun q' hq => ?_, fun q' hq hs => ?_, fun e he => ?_, fun e he => ?_,
    fun e he held hheld => ?_, fun held hheld => ?_, ?_, ?_, ?_⟩
  · obtain rfl := Option.some.inj hq
    exact h.filed q hrow
  · obtain rfl := Option.some.inj hq
    exact h.hashed q hrow hs
  · rcases List.mem_append.mp he with he | he
    · exact h.known e he
    · obtain rfl := List.mem_singleton.mp he
      exact ⟨h.filed q hrow, le_rfl, hhash⟩
  · rcases List.mem_append.mp he with he | he
    · rcases h.current e he with ⟨q', hq', hcarries⟩ | ⟨hgone, hlate⟩
      · obtain rfl : q = q' := Option.mem_unique hrow hq'
        refine .inl ⟨_, rfl, hcarries.id, hcarries.hash, hcarries.expires, ?_⟩
        have := hcarries.later
        dsimp only
        omega
      · refine .inr ⟨fun q' hq' => ?_, hlate⟩
        obtain rfl := Option.some.inj hq'
        exact hgone q hrow
    · obtain rfl := List.mem_singleton.mp he
      exact .inl ⟨_, rfl, rfl, rfl, rfl, le_rfl⟩
  · rcases List.mem_append.mp he with he | he
    · exact h.taken e he held hheld
    · obtain rfl := List.mem_singleton.mp he
      obtain rfl := Option.some.inj hheld
      refine ⟨rfl, ?_, hnow, fun hmem => (h.finished _ hmem).2 q hrow rfl hstatus⟩
      rw [IdempotencyRecord.reservation]
      dsimp only [IdempotencyRecord.reservation]
      omega
  · obtain ⟨⟨e, he, heq⟩, -⟩ := h.finished held hheld
    refine ⟨⟨e, List.mem_append_left _ he, heq⟩, fun q' hq hsame => ?_⟩
    obtain rfl := Option.some.inj hq
    exact absurd (List.mem_map.mpr ⟨e, he, heq.trans hsame.symm⟩) hnew
  · rw [begin, List.map_append, List.nodup_append']
    refine ⟨h.single, List.nodup_singleton _, fun held hmem hlast => ?_⟩
    obtain rfl := List.mem_singleton.mp hlast
    exact hnew hmem
  · rw [begin, List.filterMap_append, List.nodup_append']
    refine ⟨h.takenOnce, List.nodup_singleton _, fun held hmem hlast => ?_⟩
    obtain rfl := List.mem_singleton.mp hlast
    -- an earlier take-over of this hold would have left a later one
    obtain ⟨e, he, heq⟩ := List.mem_filterMap.mp hmem
    obtain ⟨hid, hlate, -⟩ := h.taken e he _ heq
    have hlater := h.later hrow he hid
    dsimp only [IdempotencyRecord.reservation] at hlate
    omega
  · refine List.pairwise_append.mpr ⟨h.alive, List.pairwise_singleton _ _,
      fun e he later hl hne => ?_⟩
    obtain rfl := List.mem_singleton.mp hl
    rcases h.current e he with ⟨q', hq', hcarries⟩ | ⟨-, hlate⟩
    · obtain rfl : q = q' := Option.mem_unique hrow hq'
      exact absurd ((h.known e he).2.2.symm.trans (hcarries.hash.symm.trans hhash)) hne
    · exact .inl hlate

/-- A response is recorded by an executor whose lease has not lapsed: what it leaves of the row is
no reservation. -/
theorem StoreSound.finish (h : StoreSound body s) (he : e ∈ s.executions)
    (hlease : s.clock ≤ e.reservation.createdAt + reservationLease) {row : IdempotencyRecord}
    {nextId : UUID} (hnext : s.nextId ≤ nextId) (hfiled : row.recordId < nextId)
    (hstatus : row.responseStatus ≠ reservationStatus)
    (hcurrent : ∀ e ∈ s.executions, Carries row e ∨
      (row.recordId ≠ e.reservation.recordId ∧ e.expiresAt < s.clock)) :
    StoreSound body { s with
      row := some row
      nextId
      finished := s.finished ++ [e.reservation] } := by
  refine ⟨h.closed, fun q hq => ?_, fun q hq hs => ?_, fun e he => ?_, fun e he => ?_,
    fun e' he' held hheld => ?_, fun held hheld => ?_, h.single, h.takenOnce, h.alive⟩
  · obtain rfl := Option.some.inj hq
    exact hfiled
  · obtain rfl := Option.some.inj hq
    exact absurd hs hstatus
  · obtain ⟨hid, hrest⟩ := h.known e he
    exact ⟨hid.trans_le hnext, hrest⟩
  · refine (hcurrent e he).imp (fun hcarries => ⟨row, rfl, hcarries⟩) fun hgone =>
      ⟨fun q hq => ?_, hgone.2⟩
    obtain rfl := Option.some.inj hq
    exact hgone.1
  · obtain ⟨hid, hlapsed, hstarted, hopen⟩ := h.taken e' he' held hheld
    refine ⟨hid, hlapsed, hstarted, fun hmem => ?_⟩
    rcases List.mem_append.mp hmem with hmem | hmem
    · exact hopen hmem
    · -- who takes over comes after the lease
      obtain rfl := List.mem_singleton.mp hmem
      have := (h.known e' he').2.1
      omega
  · refine ⟨?_, fun q hq _ => ?_⟩
    · rcases List.mem_append.mp hheld with hheld | hheld
      · exact (h.finished held hheld).1
      · exact ⟨e, he, (List.mem_singleton.mp hheld).symm⟩
    · obtain rfl := Option.some.inj hq
      exact hstatus

end Committing

/-! ### The requests, when each write commits -/

section Requests

variable {body : ℕ → RequestHash} {requestHash : RequestHash} {s s' : IdempotencyStore} {c j : ℕ}
  {q r record : IdempotencyRecord} {e : Execution} {phase : RequestPhase} {g : RequestConfig}

/-- A request has not executed. -/
def Idle (s : IdempotencyStore) (c : ℕ) : Prop := ∀ e ∈ s.executions, e.client ≠ c

def Executes (s : IdempotencyStore) (c : ℕ) (held : Reservation) : Prop :=
  ∃ e ∈ s.executions, e.client = c ∧ e.reservation = held

/-- A record that a request has read: the row of its key is still of its body, and held since the
same time, unless the hold was taken over. -/
structure Copied (requestHash : RequestHash) (s : IdempotencyStore) (record : IdempotencyRecord) :
    Prop where
  filed : record.recordId < s.nextId
  own : record.requestHash ≠ "" → record.requestHash = requestHash.text
  row : ∀ r, s.row = some r → r.recordId = record.recordId →
    r.requestHash = record.requestHash ∧ (r.createdAt = record.createdAt ∨
      ∃ e ∈ s.executions, e.takenFrom = some record.reservation)

def StandsAt (requestHash : RequestHash) (s : IdempotencyStore) (c : ℕ) : RequestPhase → Prop
  | .judging record => Idle s c ∧ Copied requestHash s record
  | .takingOver record now => Idle s c ∧ Copied requestHash s record ∧
      isStaleReservation record now ∧ now ≤ s.clock
  | .rereading record => Idle s c ∧ Copied requestHash s record ∧ HoldGone s record
  | .deleting recordId _ again => Idle s c ∧ again = false ∧ recordId < s.nextId ∧
      ∀ r, s.row = some r → r.recordId = recordId → r.expiresAt < s.clock
  | .executing held => Executes s c held
  | .recording held _ _ => Executes s c held
  | .ended outcome => EndsWell requestHash c s outcome
  | .dead => True
  | _ => Idle s c

/-- What the other requests see of a step of one: the clock and the keys go on, an execution is its
own, and the row that was there keeps its body, its expiry and its response, and its hold unless
that is taken over. -/
structure Evolves (c : ℕ) (s s' : IdempotencyStore) : Prop where
  clock : s.clock ≤ s'.clock
  nextId : s.nextId ≤ s'.nextId
  kept : ∀ e ∈ s.executions, e ∈ s'.executions
  own : ∀ e ∈ s'.executions, e ∈ s.executions ∨ e.client = c
  row : ∀ r', s'.row = some r' → r'.recordId < s.nextId → ∃ r, s.row = some r ∧
    r.recordId = r'.recordId ∧ r.requestHash = r'.requestHash ∧ r.expiresAt = r'.expiresAt ∧
    ((r.createdAt = r'.createdAt ∧
        (r.responseStatus ≠ reservationStatus → r'.responseStatus ≠ reservationStatus)) ∨
      ∃ e ∈ s'.executions, e.takenFrom = some r.reservation)

theorem Idle.evolve (h : Idle s j) (hs : Evolves c s s') (hj : j ≠ c) : Idle s' j := by
  intro e he
  rcases hs.own e he with hold | hnew
  · exact h e hold
  · exact fun heq => hj (heq.symm.trans hnew)

theorem Executes.evolve {held : Reservation} (h : Executes s j held) (hs : Evolves c s s') :
    Executes s' j held := by
  obtain ⟨e, he, hrest⟩ := h
  exact ⟨e, hs.kept e he, hrest⟩

theorem Copied.evolve (h : Copied requestHash s record) (hs : Evolves c s s') :
    Copied requestHash s' record := by
  refine ⟨h.filed.trans_le hs.nextId, h.own, fun r' hr' hid' => ?_⟩
  obtain ⟨r, hr, hid, hhash, -, hhold⟩ := hs.row r' hr' (hid' ▸ h.filed)
  obtain ⟨hsame, hcreated⟩ := h.row r hr (hid.trans hid')
  refine ⟨hhash.symm.trans hsame, ?_⟩
  rcases hcreated with hcreated | ⟨e, he, htaken⟩
  · have hreservation : r.reservation = record.reservation := by
      rw [IdempotencyRecord.reservation, hid.trans hid', hcreated, IdempotencyRecord.reservation]
    rcases hhold with ⟨hkept, -⟩ | htaken
    · exact .inl (hkept.symm.trans hcreated)
    · exact .inr (hreservation ▸ htaken)
  · exact .inr ⟨e, hs.kept e he, htaken⟩

theorem HoldGone.evolve (h : HoldGone s record) (hcopied : Copied requestHash s record)
    (hs : Evolves c s s') : HoldGone s' record := by
  intro r' hr' hid'
  obtain ⟨r, hr, hid, -, -, hhold⟩ := hs.row r' hr' (hid' ▸ hcopied.filed)
  rcases h r hr (hid.trans hid') with hanswered | ⟨e, he, htaken⟩
  · rcases hhold with ⟨-, hstatus⟩ | htaken
    · exact .inl (hstatus hanswered)
    · rcases (hcopied.row r hr (hid.trans hid')).2 with hcreated | ⟨e, he, hearlier⟩
      · have hreservation : r.reservation = record.reservation := by
          rw [IdempotencyRecord.reservation, hid.trans hid', hcreated,
            IdempotencyRecord.reservation]
        exact .inr (hreservation ▸ htaken)
      · exact .inr ⟨e, hs.kept e he, hearlier⟩
  · exact .inr ⟨e, hs.kept e he, htaken⟩

theorem EndsWell.evolve {outcome : RequestOutcome} (h : EndsWell requestHash j s outcome)
    (hs : Evolves c s s') (hj : j ≠ c) : EndsWell requestHash j s' outcome := by
  cases outcome with
  | executed =>
    obtain ⟨e, he, hclient⟩ := h
    exact ⟨e, hs.kept e he, hclient⟩
  | released =>
    obtain ⟨e, he, hclient⟩ := h
    exact ⟨e, hs.kept e he, hclient⟩
  | replayed status body => exact Idle.evolve h hs hj
  | refused other => exact ⟨Idle.evolve h.1 hs hj, h.2⟩
  | failed => exact h

/-- **The steps of the others** do not move a request. -/
theorem StandsAt.evolve (h : StandsAt requestHash s j phase) (hs : Evolves c s s') (hj : j ≠ c) :
    StandsAt requestHash s' j phase := by
  cases phase with
  | arriving => exact Idle.evolve h hs hj
  | checking begun => exact Idle.evolve h hs hj
  | deleting recordId begun again =>
    obtain ⟨hidle, hagain, hfiled, hexpired⟩ := h
    refine ⟨hidle.evolve hs hj, hagain, hfiled.trans_le hs.nextId, fun r' hr' hid' => ?_⟩
    obtain ⟨r, hr, hid, -, hexpires, -⟩ := hs.row r' hr' (hid' ▸ hfiled)
    rw [← hexpires]
    exact (hexpired r hr (hid.trans hid')).trans_le hs.clock
  | judging record => exact ⟨h.1.evolve hs hj, h.2.evolve hs⟩
  | takingOver record now =>
    exact ⟨h.1.evolve hs hj, h.2.1.evolve hs, h.2.2.1, h.2.2.2.trans hs.clock⟩
  | rereading record =>
    exact ⟨h.1.evolve hs hj, h.2.1.evolve hs, h.2.2.evolve h.2.1 hs⟩
  | reserving begun => exact Idle.evolve h hs hj
  | rechecking => exact Idle.evolve h hs hj
  | executing held => exact Executes.evolve h hs
  | recording held found response => exact Executes.evolve h hs
  | ended outcome => exact EndsWell.evolve h hs hj
  | dead => trivial

theorem Evolves.refl (c : ℕ) (s : IdempotencyStore) : Evolves c s s :=
  ⟨le_rfl, le_rfl, fun _ he => he, fun _ he => .inl he, fun r' hr' _ =>
    ⟨r', hr', rfl, rfl, rfl, .inl ⟨rfl, id⟩⟩⟩

theorem Evolves.remove (c : ℕ) (s : IdempotencyStore) (recordId : UUID) :
    Evolves c s { s with row := s.row.filter (·.recordId ≠ recordId) } :=
  ⟨le_rfl, le_rfl, fun _ he => he, fun _ he => .inl he, fun r' hr' _ =>
    ⟨r', (Option.filter_eq_some_iff.mp hr').1, rfl, rfl, rfl, .inl ⟨rfl, id⟩⟩⟩

theorem Evolves.reserve (c : ℕ) (s : IdempotencyStore) {reserved : IdempotencyRecord}
    (hid : reserved.recordId = s.nextId) :
    Evolves c s (begin c none reserved
      { s with row := some reserved, nextId := s.nextId + 1 }).1 := by
  refine ⟨le_rfl, Nat.le_succ _, fun _ he => List.mem_append_left _ he, fun e he => ?_,
    fun r' hr' hlt => ?_⟩
  · rcases List.mem_append.mp he with he | he
    · exact .inl he
    · exact .inr (congrArg Execution.client (List.mem_singleton.mp he))
  · obtain rfl := Option.some.inj hr'
    exact absurd hid hlt.ne

theorem Evolves.takeOver (c : ℕ) (s : IdempotencyStore) (hrow : s.row = some q) (now : ℤ) :
    Evolves c s (begin c (some q.reservation) { q with createdAt := now }
      { s with row := some { q with createdAt := now } }).1 := by
  refine ⟨le_rfl, le_rfl, fun _ he => List.mem_append_left _ he, fun e he => ?_,
    fun r' hr' _ => ?_⟩
  · rcases List.mem_append.mp he with he | he
    · exact .inl he
    · exact .inr (congrArg Execution.client (List.mem_singleton.mp he))
  · obtain rfl := Option.some.inj hr'
    exact ⟨q, hrow, rfl, rfl, rfl, .inr ⟨_, List.mem_append_right _ (List.mem_singleton_self _),
      rfl⟩⟩

theorem Evolves.finish (c : ℕ) (s : IdempotencyStore) {row : IdempotencyRecord} {nextId : UUID}
    (held : Reservation) (hnext : s.nextId ≤ nextId)
    (hstatus : row.responseStatus ≠ reservationStatus)
    (hrow : row.recordId < s.nextId → ∃ r, s.row = some r ∧ r.recordId = row.recordId ∧
      r.requestHash = row.requestHash ∧ r.expiresAt = row.expiresAt ∧
      r.createdAt = row.createdAt) :
    Evolves c s { s with
      row := some row
      nextId
      finished := s.finished ++ [held] } := by
  refine ⟨le_rfl, hnext, fun _ he => he, fun _ he => .inl he, fun r' hr' hlt => ?_⟩
  obtain rfl := Option.some.inj hr'
  obtain ⟨r, hr, hid, hhash, hexpires, hcreated⟩ := hrow hlt
  exact ⟨r, hr, hid, hhash, hexpires, .inl ⟨hcreated, fun _ => hstatus⟩⟩

def KeySound (body : ℕ → RequestHash) (g : RequestConfig) : Prop :=
  g.Sound (StoreSound body) fun s c => StandsAt (body c) s c

theorem KeySound.evolve (h : KeySound body g) {l : RequestPhase} (hshared : StoreSound body s')
    (hevolves : Evolves c g.shared s') (hself : StandsAt (body c) s' c l) :
    KeySound body (g.move c (s', l)) :=
  Config.Sound.move h hshared hself fun _ hj _ hstands => hstands.evolve hevolves hj

theorem KeySound.stay (h : KeySound body g) {l : RequestPhase}
    (hself : StandsAt (body c) g.shared c l) : KeySound body (g.move c (g.shared, l)) :=
  h.evolve h.shared (Evolves.refl c _) hself

theorem check_eq (now : ℤ) (requestHash : RequestHash) (row : Option IdempotencyRecord) :
    (row = none ∧ check now requestHash row = .absent) ∨
    (∃ r, row = some r ∧ r.expiresAt < now ∧ check now requestHash row = .expired r.recordId) ∨
    (∃ r, row = some r ∧ r.requestHash ≠ "" ∧ r.requestHash ≠ requestHash.text ∧
      check now requestHash row = .conflict r.requestHash) ∨
    (∃ r, row = some r ∧ (r.requestHash ≠ "" → r.requestHash = requestHash.text) ∧
      check now requestHash row = .found r) := by
  cases row with
  | none => exact .inl ⟨rfl, rfl⟩
  | some r =>
    rw [check]
    split_ifs with hexpired hconflict
    · exact .inr (.inl ⟨r, rfl, hexpired, rfl⟩)
    · exact .inr (.inr (.inl ⟨r, rfl, hconflict.1, hconflict.2, rfl⟩))
    · exact .inr (.inr (.inr ⟨r, rfl, fun hne => not_not.mp fun hother => hconflict ⟨hne, hother⟩,
        rfl⟩))

theorem Copied.of_row (hrow : s.row = some r) (hfiled : r.recordId < s.nextId)
    (hown : r.requestHash ≠ "" → r.requestHash = requestHash.text) :
    Copied requestHash s r := by
  refine ⟨hfiled, hown, fun r' hr' _ => ?_⟩
  obtain rfl : r = r' := Option.mem_unique hrow hr'
  exact ⟨rfl, .inl rfl⟩

theorem takeOverReservation_eq_some {recordId : UUID} {now : ℤ} {row : Option IdempotencyRecord} :
    takeOverReservation recordId now row = some q ↔
      row = some q ∧ q.recordId = recordId ∧ isStaleReservation q now := by
  rw [takeOverReservation, withId, Option.filter_eq_some_iff, Option.filter_eq_some_iff,
    decide_eq_true_iff, decide_eq_true_iff, and_assoc]

theorem withId_eq_some {recordId : UUID} {row : Option IdempotencyRecord} :
    withId recordId row = some q ↔ row = some q ∧ q.recordId = recordId := by
  rw [withId, Option.filter_eq_some_iff, decide_eq_true_iff]

/-- **Every statement** of a request that meets the condition keeps the key sound. -/
theorem KeySound.step (h : KeySound body g)
    (hmeets : StepMeets .committing (body c) g.shared (g.locals c)) :
    KeySound body (g.move c (checkOrReserve (body c) c g.shared (g.locals c))) := by
  have hself := h.locals c
  cases hphase : g.locals c with
  | arriving =>
    rw [hphase] at hself
    exact h.stay hself
  | checking begun =>
    rw [hphase] at hself
    rw [checkOrReserve]
    rcases check_eq g.shared.clock (body c) g.shared.row with
      ⟨-, hcheck⟩ | ⟨r, hrow, hexpired, hcheck⟩ | ⟨r, hrow, hne, hother, hcheck⟩ |
        ⟨r, hrow, hown, hcheck⟩
    · rw [hcheck]
      exact h.stay hself
    · rw [hcheck]
      refine h.stay ⟨hself, rfl, h.shared.filed r hrow, fun r' hr' _ => ?_⟩
      obtain rfl : r = r' := Option.mem_unique hrow hr'
      exact hexpired
    · rw [hcheck]
      exact h.stay ⟨hself, hne, hother⟩
    · rw [hcheck]
      exact h.stay ⟨hself, Copied.of_row hrow (h.shared.filed r hrow) hown⟩
  | deleting recordId begun again =>
    rw [hphase] at hself
    obtain ⟨hidle, rfl, -, hexpired⟩ := hself
    exact h.evolve (h.shared.remove recordId hexpired) (Evolves.remove c _ recordId) hidle
  | judging record =>
    rw [hphase] at hself
    obtain ⟨hidle, hcopied⟩ := hself
    rw [checkOrReserve]
    by_cases hstale : isStaleReservation record g.shared.clock
    · rw [if_pos hstale]
      exact h.stay ⟨hidle, hcopied, hstale, le_rfl⟩
    · rw [if_neg hstale]
      exact h.stay hidle
  | takingOver record now =>
    rw [hphase] at hself hmeets
    obtain ⟨hidle, hcopied, hstale, hnow⟩ := hself
    obtain ⟨r, hrow, hid⟩ := hmeets
    obtain ⟨hhash, hcreated⟩ := hcopied.row r hrow hid
    rw [checkOrReserve]
    cases htaken : takeOverReservation record.recordId now g.shared.row with
    | some held =>
      obtain ⟨hheld, -, hheldStale⟩ := takeOverReservation_eq_some.mp htaken
      obtain rfl : r = held := Option.mem_unique hrow hheld
      have hown : r.requestHash = (body c).text :=
        hhash.trans (hcopied.own (hhash ▸ h.shared.hashed r hrow hheldStale.1))
      exact h.evolve (h.shared.takeOver hrow hheldStale hnow hown) (Evolves.takeOver c _ hrow now)
        ⟨_, List.mem_append_right _ (List.mem_singleton_self _), rfl, rfl⟩
    | none =>
      refine h.stay ⟨hidle, hcopied, fun r' hr' hid' => ?_⟩
      obtain rfl : r = r' := Option.mem_unique hrow hr'
      rcases hcreated with hcreated | htaken'
      · -- held as it was read, so it has been answered
        refine .inl fun hstatus => ?_
        have hnone : ¬ isStaleReservation r now := fun hr => by
          rw [takeOverReservation_eq_some.mpr ⟨hrow, hid, hr⟩] at htaken
          exact absurd htaken (by simp)
        exact hnone ⟨hstatus, hcreated ▸ hstale.2⟩
      · exact .inr htaken'
  | rereading record =>
    rw [hphase] at hself hmeets
    obtain ⟨r, hrow, hid⟩ := hmeets
    rw [checkOrReserve, withId_eq_some.mpr ⟨hrow, hid⟩]
    exact h.stay hself.1
  | reserving begun =>
    rw [hphase] at hself
    rw [checkOrReserve]
    cases hrow : g.shared.row with
    | none =>
      exact h.evolve (h.shared.reserve hrow c begun) (Evolves.reserve c _ rfl)
        ⟨_, List.mem_append_right _ (List.mem_singleton_self _), rfl, rfl⟩
    | some r => exact h.stay hself
  | rechecking =>
    rw [hphase] at hself hmeets
    obtain ⟨other, hconflict⟩ := hmeets
    rw [checkOrReserve, hconflict]
    rcases check_eq g.shared.clock (body c) g.shared.row with
      ⟨-, hcheck⟩ | ⟨r, -, -, hcheck⟩ | ⟨r, -, hne, hother, hcheck⟩ | ⟨r, -, -, hcheck⟩
    · exact absurd (hconflict.symm.trans hcheck) (by simp)
    · exact absurd (hconflict.symm.trans hcheck) (by simp)
    · obtain rfl := CheckAnswer.conflict.inj (hconflict.symm.trans hcheck)
      exact h.stay ⟨hself, hne, hother⟩
    · exact absurd (hconflict.symm.trans hcheck) (by simp)
  | executing held => exact h.stay (hphase ▸ hself)
  | recording held found response =>
    rw [hphase] at hself hmeets
    obtain ⟨e, he, hclient, rfl⟩ := hself
    obtain ⟨hlease, hsame⟩ := hmeets
    have hfound := hsame rfl
    cases found with
    | none =>
      have hrow : g.shared.row = none := Option.map_eq_none_iff.mp hfound
      rw [checkOrReserve, hrow]
      refine h.evolve (h.shared.finish he hlease (Nat.le_succ _) (Nat.lt_succ_self _)
        response.notReservation fun e' he' => .inr ⟨(h.shared.known e' he').1.ne', ?_⟩)
        (Evolves.finish c _ _ (Nat.le_succ _) response.notReservation
          fun hlt => absurd hlt (lt_irrefl _)) ⟨e, he, hclient⟩
      rcases h.shared.current e' he' with ⟨q, hq, -⟩ | ⟨-, hlate⟩
      · exact absurd (hrow.symm.trans hq) (by simp)
      · exact hlate
    | some recordId =>
      obtain ⟨r, hrow, hid⟩ := Option.map_eq_some_iff.mp hfound
      rw [checkOrReserve, withId_eq_some.mpr ⟨hrow, hid⟩]
      refine h.evolve (h.shared.finish he hlease le_rfl (h.shared.filed r hrow)
        response.notReservation fun e' he' => ?_)
        (Evolves.finish c _ _ le_rfl response.notReservation
          fun _ => ⟨r, hrow, rfl, rfl, rfl, rfl⟩) ⟨e, he, hclient⟩
      rcases h.shared.current e' he' with ⟨q, hq, hcarries⟩ | ⟨hgone, hlate⟩
      · obtain rfl : r = q := Option.mem_unique hrow hq
        exact .inl ⟨hcarries.id, hcarries.hash, hcarries.expires, hcarries.later⟩
      · exact .inr ⟨hgone r hrow, hlate⟩
  | ended outcome => exact h.stay (hphase ▸ hself)
  | dead => exact h.stay (hphase ▸ hself)

theorem Evolves.tick (c : ℕ) (s : IdempotencyStore) (seconds : ℕ) :
    Evolves c s { s with clock := s.clock + seconds } :=
  ⟨by dsimp only; omega, le_rfl, fun _ he => he, fun _ he => .inl he, fun r' hr' _ =>
    ⟨r', hr', rfl, rfl, rfl, .inl ⟨rfl, id⟩⟩⟩

theorem rollback_of_closed (h : s.pending = none) (c : ℕ) : rollback c s = s := by
  rw [rollback, h]
  obtain ⟨row, pending, nextId, clock, executions, finished, withdrawn⟩ := s
  obtain rfl := h
  rfl

/-- **Every operation** that meets the condition keeps the key sound. -/
theorem KeySound.apply (h : KeySound body g) (op : RequestOp)
    (hmeets : Meets .committing body g op) : KeySound body (op.apply .committing body g) := by
  cases op with
  | tick seconds =>
    exact Config.Sound.reshare h (h.shared.tick seconds) fun j _ hstands =>
      hstands.evolve (Evolves.tick (j + 1) _ seconds) (Nat.succ_ne_self j).symm
  | step c => exact h.step hmeets
  | finish c response =>
    have hself := h.locals c
    rw [RequestOp.apply, Variant.update]
    cases hphase : g.locals c with
    | executing held =>
      rw [hphase] at hself
      exact h.stay hself
    | _ => exact h.stay (hphase ▸ hself)
  | release c => exact h.stay (h.locals c)
  | die c =>
    have hself := h.locals c
    rw [RequestOp.apply]
    cases hphase : g.locals c with
    | ended outcome => exact h.stay (hphase ▸ hself)
    | _ =>
      rw [die, rollback_of_closed h.shared.closed]
      · exact h.stay trivial
      · exact fun outcome heq => RequestPhase.noConfusion heq

theorem KeySound.init (body : ℕ → RequestHash) : KeySound body ⟨{}, fun _ => .arriving⟩ := by
  refine ⟨⟨rfl, ?_, ?_, ?_, ?_, ?_, ?_, List.nodup_nil, List.nodup_nil, List.Pairwise.nil⟩,
    fun c => ?_⟩
  · exact fun q hq => absurd hq (by simp)
  · exact fun q hq => absurd hq (by simp)
  · exact fun e he => absurd he List.not_mem_nil
  · exact fun e he => absurd he List.not_mem_nil
  · exact fun e he => absurd he List.not_mem_nil
  · exact fun held hheld => absurd hheld List.not_mem_nil
  · exact fun e he => absurd he List.not_mem_nil

theorem KeySound.executesOnce (h : KeySound body g) : ExecutesOnce body g := by
  refine ⟨h.shared.single, h.shared.takenOnce, fun e he taken htaken => ?_,
    fun e he => (h.shared.known e he).2.2, h.shared.alive, fun c outcome hended => ?_,
    fun c record hphase => ?_⟩
  · obtain ⟨-, hlapsed, hstarted, hopen⟩ := h.shared.taken e he taken htaken
    exact ⟨hlapsed.trans_le hstarted, hopen⟩
  · have hself := h.locals c
    rw [hended] at hself
    exact hself
  · have hself := h.locals c
    rw [hphase] at hself
    exact hself.2.2

end Requests

end DotmacErp.Idempotency
