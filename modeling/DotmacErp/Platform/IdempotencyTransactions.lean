import DotmacErp.Platform.IdempotencyOnce

/-!
# Idempotency within the caller's transaction

Requests that reserve inside their own transaction: the reservation, the effect and the response
commit together. A committed row always has a response (`OpenSound.answered`), so no reservation is
ever lapsed, and a request that loses the insertion waits for the other one and replays its
response.

With the requests that commit each write (`KeySound`), this gives what holds in every run of either
kind whose steps meet the condition (`executesOnce_of_meets`).
-/

namespace DotmacErp.Idempotency

open Relational

section Transactions

variable {body : ℕ → RequestHash} {requestHash : RequestHash} {s s' : IdempotencyStore} {c j : ℕ}
  {q r : IdempotencyRecord} {e : Execution} {phase : RequestPhase} {g : RequestConfig}

/-! ### The store -/

def Shows (q : IdempotencyRecord) (e : Execution) : Prop :=
  q.requestHash = e.recordHash ∧ q.expiresAt = e.expiresAt

/-- The invariant of the store: the committed row has a response, and where there is an open version
of the row, the committed one has expired. -/
structure OpenSound (body : ℕ → RequestHash) (s : IdempotencyStore) : Prop where
  filed : ∀ q, s.row = some q → q.recordId < s.nextId
  answered : ∀ q, s.row = some q → q.responseStatus ≠ reservationStatus
  version : ∀ k q, s.pending = some (k, some q) → q.recordId < s.nextId ∧
    q.requestHash = (body k).text ∧ ∀ r, s.row = some r → r.recordId ≠ q.recordId
  superseded : s.pending.isSome → ∀ q, s.row = some q → q.expiresAt < s.clock
  known : ∀ e ∈ s.executions, e.reservation.recordId < s.nextId ∧ e.takenFrom = none ∧
    e.recordHash = (body e.client).text
  current : ∀ e ∈ s.executions, (∃ q, s.row = some q ∧ Shows q e) ∨
    (∃ q, s.pending = some (e.client, some q) ∧ Shows q e) ∨ e.expiresAt < s.clock ∨
      e.client ∈ s.withdrawn
  single : (s.executions.map Execution.reservation).Nodup
  alive : s.executions.Pairwise fun e later =>
    (body e.client).text ≠ (body later.client).text →
      e.expiresAt < later.startedAt ∨ e.client ∈ s.withdrawn

theorem OpenSound.tick (h : OpenSound body s) (seconds : ℕ) :
    OpenSound body { s with clock := s.clock + seconds } := by
  have hclock : s.clock ≤ s.clock + seconds := by omega
  refine ⟨h.filed, h.answered, h.version, fun hopen q hq => ?_, h.known, fun e he => ?_, h.single,
    h.alive⟩
  · exact (h.superseded hopen q hq).trans_le hclock
  · exact (h.current e he).imp_right fun hrest => hrest.imp_right fun hrest =>
      hrest.imp_left fun hlate => hlate.trans_le hclock

theorem OpenSound.remove (h : OpenSound body s) (hnone : ∀ k q, s.pending ≠ some (k, some q))
    (c : ℕ) (hexpired : ∀ q, s.row = some q → q.expiresAt < s.clock) :
    OpenSound body { s with pending := some (c, none) } := by
  refine ⟨h.filed, h.answered, fun k q hq => ?_, fun _ => hexpired, h.known, fun e he => ?_,
    h.single, h.alive⟩
  · exact absurd (congrArg Prod.snd (Option.some.inj hq)) (by simp)
  · refine (h.current e he).imp_right fun hrest => ?_
    rcases hrest with ⟨q, hq, -⟩ | hrest
    · exact absurd hq (hnone _ q)
    · exact .inr hrest

/-- **A reservation**, in an open transaction. -/
theorem OpenSound.reserve (h : OpenSound body s) (hnone : ∀ k q, s.pending ≠ some (k, some q))
    (hexpired : ∀ q, s.row = some q → q.expiresAt < s.clock) (c : ℕ) (begun : Option ℤ) :
    OpenSound body (begin c none (reservationRow s (body c) begun)
      { s with
        pending := some (c, some (reservationRow s (body c) begun))
        nextId := s.nextId + 1 }).1 := by
  have hlate : ∀ e ∈ s.executions, e.expiresAt < s.clock ∨ e.client ∈ s.withdrawn := by
    intro e he
    rcases h.current e he with ⟨q, hq, hshows⟩ | ⟨q, hq, -⟩ | hlate
    · exact .inl (hshows.2 ▸ hexpired q hq)
    · exact absurd hq (hnone _ q)
    · exact hlate
  refine ⟨fun q hq => Nat.lt_succ_of_lt (h.filed q hq), h.answered, fun k q hq => ?_,
    fun _ => hexpired, fun e he => ?_, fun e he => ?_, ?_, ?_⟩
  · obtain ⟨rfl, hversion⟩ := Prod.mk.inj (Option.some.inj hq)
    obtain rfl := Option.some.inj hversion
    exact ⟨Nat.lt_succ_self _, rfl, fun r hr => (h.filed r hr).ne⟩
  · rcases List.mem_append.mp he with he | he
    · obtain ⟨hid, hrest⟩ := h.known e he
      exact ⟨Nat.lt_succ_of_lt hid, hrest⟩
    · obtain rfl := List.mem_singleton.mp he
      exact ⟨Nat.lt_succ_self _, rfl, rfl⟩
  · rcases List.mem_append.mp he with he | he
    · exact .inr (.inr (hlate e he))
    · obtain rfl := List.mem_singleton.mp he
      exact .inr (.inl ⟨_, rfl, rfl, rfl⟩)
  · rw [begin, List.map_append, List.nodup_append']
    refine ⟨h.single, List.nodup_singleton _, fun held hmem hlast => ?_⟩
    obtain rfl := List.mem_singleton.mp hlast
    obtain ⟨e, he, heq⟩ := List.mem_map.mp hmem
    exact absurd (congrArg Reservation.recordId heq) (h.known e he).1.ne
  · refine List.pairwise_append.mpr ⟨h.alive, List.pairwise_singleton _ _, fun e he later hl _ =>
      ?_⟩
    obtain rfl := List.mem_singleton.mp hl
    exact hlate e he

theorem OpenSound.stage (h : OpenSound body s) (hpending : s.pending = some (c, some q))
    (response : RecordedResponse) :
    OpenSound body { s with pending := some (c, some (q.answer response)) } := by
  refine ⟨h.filed, h.answered, fun k q' hq' => ?_, fun _ => h.superseded (by simp [hpending]),
    h.known, fun e he => ?_, h.single, h.alive⟩
  · obtain ⟨rfl, hversion⟩ := Prod.mk.inj (Option.some.inj hq')
    obtain rfl := Option.some.inj hversion
    exact h.version c q hpending
  · refine (h.current e he).imp_right fun hrest => hrest.imp_left ?_
    rintro ⟨q', hq', hshows⟩
    obtain ⟨hclient, hversion⟩ := Prod.mk.inj (Option.mem_unique hpending hq')
    obtain rfl := Option.some.inj hversion
    exact ⟨q.answer response, congrArg (fun k => some (k, some (q.answer response))) hclient,
      hshows⟩

/-- **The commit** of an open version, answered. -/
theorem OpenSound.commit (h : OpenSound body s) (hpending : s.pending = some (c, some q))
    (hstatus : q.responseStatus ≠ reservationStatus) (finished : List Reservation) :
    OpenSound body { s with row := some q, pending := none, finished } := by
  refine ⟨fun q' hq' => ?_, fun q' hq' => ?_, fun k q' hq' => absurd hq' (by simp),
    fun hopen => absurd hopen (by simp), h.known, fun e he => ?_, h.single, h.alive⟩
  · obtain rfl := Option.some.inj hq'
    exact (h.version c q hpending).1
  · obtain rfl := Option.some.inj hq'
    exact hstatus
  · rcases h.current e he with ⟨q', hq', hshows⟩ | ⟨q', hq', hshows⟩ | hrest
    · -- the row that is replaced has expired
      exact .inr (.inr (.inl (hshows.2 ▸ h.superseded (by simp [hpending]) q' hq')))
    · obtain ⟨-, hversion⟩ := Prod.mk.inj (Option.mem_unique hpending hq')
      obtain rfl := Option.some.inj hversion
      exact .inl ⟨q, rfl, hshows⟩
    · exact .inr (.inr hrest)

variable {version : Option IdempotencyRecord}

theorem OpenSound.withdraw (h : OpenSound body s) (hpending : s.pending = some (c, version))
    {row : Option IdempotencyRecord} (hrow : row = none ∨ row = s.row) :
    OpenSound body { s with row, pending := none, withdrawn := s.withdrawn ++ [c] } := by
  have hkept : ∀ q, row = some q → s.row = some q := by
    intro q hq
    rcases hrow with rfl | rfl
    · exact absurd hq (by simp)
    · exact hq
  refine ⟨fun q hq => h.filed q (hkept q hq), fun q hq => h.answered q (hkept q hq),
    fun k q' hq' => absurd hq' (by simp), fun hopen => absurd hopen (by simp), h.known,
    fun e he => ?_, h.single, h.alive.imp fun hpair hne => (hpair hne).imp_right
      (List.mem_append_left _)⟩
  rcases h.current e he with ⟨q', hq', hshows⟩ | ⟨q', hq', -⟩ | hlate | hgone
  · exact .inr (.inr (.inl (hshows.2 ▸ h.superseded (by simp [hpending]) q' hq')))
  · obtain ⟨hclient, -⟩ := Prod.mk.inj (Option.mem_unique hpending hq')
    exact .inr (.inr (.inr (List.mem_append_right _ (List.mem_singleton.mpr hclient.symm))))
  · exact .inr (.inr (.inl hlate))
  · exact .inr (.inr (.inr (List.mem_append_left _ hgone)))

/-! ### The requests -/

def NotHolding (s : IdempotencyStore) (c : ℕ) : Prop := ∀ version, s.pending ≠ some (c, version)

def StandsOpen (s : IdempotencyStore) (requestHash : RequestHash) (c : ℕ) : RequestPhase → Prop
  | .deleting recordId _ _ => Idle s c ∧ NotHolding s c ∧ recordId < s.nextId ∧
      (∀ k q, s.pending = some (k, some q) → q.recordId ≠ recordId) ∧
      ∀ r, s.row = some r → r.recordId = recordId → r.expiresAt < s.clock
  | .reserving _ => Idle s c ∧ ∀ version, s.pending = some (c, version) → version = none
  | .executing held => Executes s c held ∧ ∃ q, s.pending = some (c, some q)
  | .recording held _ _ => Executes s c held ∧
      ∃ q, s.pending = some (c, some q) ∧ q.responseStatus ≠ reservationStatus
  | .ended outcome => EndsWell requestHash c s outcome ∧ NotHolding s c
  | .dead => NotHolding s c
  | .judging _ => False
  | .takingOver _ _ => False
  | .rereading _ => False
  | _ => Idle s c ∧ NotHolding s c

/-- What the other requests see of a step of one: an execution is its own, it leaves their open
version alone, and a key there was is that of the same row, or of a version that it commits. -/
structure EvolvesOpen (c : ℕ) (s s' : IdempotencyStore) : Prop where
  clock : s.clock ≤ s'.clock
  nextId : s.nextId ≤ s'.nextId
  kept : ∀ e ∈ s.executions, e ∈ s'.executions
  own : ∀ e ∈ s'.executions, e ∈ s.executions ∨ e.client = c
  pending : ∀ j ≠ c, ∀ version, s'.pending = some (j, version) ↔ s.pending = some (j, version)
  version : ∀ k q', s'.pending = some (k, some q') → q'.recordId < s.nextId →
    ∃ k q, s.pending = some (k, some q) ∧ q.recordId = q'.recordId
  row : ∀ r', s'.row = some r' → s.row = some r' ∨
    ∃ r, s.pending = some (c, some r) ∧ r.recordId = r'.recordId

theorem NotHolding.evolve (h : NotHolding s j) (hs : EvolvesOpen c s s') (hj : j ≠ c) :
    NotHolding s' j :=
  fun version hversion => h version ((hs.pending j hj version).mp hversion)

theorem EvolvesOpen.idle (hs : EvolvesOpen c s s') (h : Idle s j) (hj : j ≠ c) : Idle s' j := by
  intro e he
  rcases hs.own e he with hold | hnew
  · exact h e hold
  · exact fun heq => hj (heq.symm.trans hnew)

theorem EvolvesOpen.executes (hs : EvolvesOpen c s s') {held : Reservation}
    (h : Executes s j held) : Executes s' j held := by
  obtain ⟨e, he, hrest⟩ := h
  exact ⟨e, hs.kept e he, hrest⟩

theorem EvolvesOpen.endsWell (hs : EvolvesOpen c s s') {outcome : RequestOutcome}
    (h : EndsWell requestHash j s outcome) (hj : j ≠ c) : EndsWell requestHash j s' outcome := by
  cases outcome with
  | executed =>
    obtain ⟨e, he, hclient⟩ := h
    exact ⟨e, hs.kept e he, hclient⟩
  | released =>
    obtain ⟨e, he, hclient⟩ := h
    exact ⟨e, hs.kept e he, hclient⟩
  | replayed status body => exact hs.idle h hj
  | refused other => exact ⟨hs.idle h.1 hj, h.2⟩
  | failed => exact h

/-- **The steps of the others** do not move a request. -/
theorem StandsOpen.evolve (h : StandsOpen s requestHash j phase) (hs : EvolvesOpen c s s')
    (hj : j ≠ c) : StandsOpen s' requestHash j phase := by
  cases phase with
  | arriving => exact ⟨hs.idle h.1 hj, h.2.evolve hs hj⟩
  | checking begun => exact ⟨hs.idle h.1 hj, h.2.evolve hs hj⟩
  | deleting recordId begun again =>
    obtain ⟨hidle, hholds, hfiled, hversion, hexpired⟩ := h
    refine ⟨hs.idle hidle hj, hholds.evolve hs hj, hfiled.trans_le hs.nextId,
      fun k q' hq' hid => ?_, fun r' hr' hid => ?_⟩
    · obtain ⟨k', q, hq, hsame⟩ := hs.version k q' hq' (hid ▸ hfiled)
      exact hversion k' q hq (hsame.trans hid)
    · rcases hs.row r' hr' with hr | ⟨r, hr, hsame⟩
      · exact (hexpired r' hr hid).trans_le hs.clock
      · exact absurd (hsame.trans hid) (hversion c r hr)
  | judging record => exact h
  | takingOver record now => exact h
  | rereading record => exact h
  | reserving begun =>
    exact ⟨hs.idle h.1 hj, fun version hversion => h.2 version ((hs.pending j hj version).mp
      hversion)⟩
  | rechecking => exact ⟨hs.idle h.1 hj, h.2.evolve hs hj⟩
  | executing held =>
    obtain ⟨hexecutes, q, hq⟩ := h
    exact ⟨hs.executes hexecutes, q, (hs.pending j hj _).mpr hq⟩
  | recording held found response =>
    obtain ⟨hexecutes, q, hq, hstatus⟩ := h
    exact ⟨hs.executes hexecutes, q, (hs.pending j hj _).mpr hq, hstatus⟩
  | ended outcome => exact ⟨hs.endsWell h.1 hj, h.2.evolve hs hj⟩
  | dead => exact NotHolding.evolve h hs hj

theorem EvolvesOpen.refl (c : ℕ) (s : IdempotencyStore) : EvolvesOpen c s s :=
  ⟨le_rfl, le_rfl, fun _ he => he, fun _ he => .inl he, fun _ _ _ => Iff.rfl,
    fun k q' hq' _ => ⟨k, q', hq', rfl⟩, fun _ hr' => .inl hr'⟩

theorem EvolvesOpen.tick (c : ℕ) (s : IdempotencyStore) (seconds : ℕ) :
    EvolvesOpen c s { s with clock := s.clock + seconds } :=
  ⟨by dsimp only; omega, le_rfl, fun _ he => he, fun _ he => .inl he, fun _ _ _ => Iff.rfl,
    fun k q' hq' _ => ⟨k, q', hq', rfl⟩, fun _ hr' => .inl hr'⟩

theorem pending_iff_of_not_held (h : ¬ HeldByOther c s) (hj : j ≠ c)
    {mine : Option IdempotencyRecord} :
    some (c, mine) = some (j, version) ↔ s.pending = some (j, version) := by
  constructor
  · intro heq
    exact absurd (Prod.mk.inj (Option.some.inj heq)).1 hj.symm
  · intro hpending
    exact absurd ⟨_, hpending, hj⟩ h

theorem EvolvesOpen.write (h : ¬ HeldByOther c s) {mine : Option IdempotencyRecord}
    (hmine : ∀ q', mine = some q' → q'.recordId < s.nextId →
      ∃ k q, s.pending = some (k, some q) ∧ q.recordId = q'.recordId)
    {nextId : UUID} (hnext : s.nextId ≤ nextId) {executions : List Execution}
    (hkept : ∀ e ∈ s.executions, e ∈ executions)
    (hown : ∀ e ∈ executions, e ∈ s.executions ∨ e.client = c) :
    EvolvesOpen c s { s with pending := some (c, mine), nextId, executions } := by
  refine ⟨le_rfl, hnext, hkept, hown, fun j hj _ => pending_iff_of_not_held h hj,
    fun k q' hq' hlt => ?_, fun _ hr' => .inl hr'⟩
  exact hmine q' (Prod.mk.inj (Option.some.inj hq')).2 hlt

theorem EvolvesOpen.close
    (hpending : s.pending = some (c, version)) {row : Option IdempotencyRecord}
    (hrow : ∀ r', row = some r' → s.row = some r' ∨ version = some r')
    {finished : List Reservation} {withdrawn : List ℕ} :
    EvolvesOpen c s { s with row, pending := none, finished, withdrawn } := by
  refine ⟨le_rfl, le_rfl, fun _ he => he, fun _ he => .inl he, fun j hj version' => ?_,
    fun k q' hq' _ => absurd hq' (by simp), fun r' hr' => ?_⟩
  · constructor
    · intro heq
      exact absurd heq (by simp)
    · intro hother
      exact absurd (Prod.mk.inj (Option.mem_unique hpending hother)).1 hj.symm
  · exact (hrow r' hr').imp_right fun (hversion : version = some r') =>
      ⟨r', hversion ▸ hpending, rfl⟩

/-! ### Every statement -/

def OpenKeySound (body : ℕ → RequestHash) (g : RequestConfig) : Prop :=
  g.Sound (OpenSound body) fun s c => StandsOpen s (body c) c

theorem OpenKeySound.evolve (h : OpenKeySound body g) {l : RequestPhase}
    (hshared : OpenSound body s') (hevolves : EvolvesOpen c g.shared s')
    (hself : StandsOpen s' (body c) c l) : OpenKeySound body (g.move c (s', l)) :=
  Config.Sound.move h hshared hself fun _ hj _ hstands => hstands.evolve hevolves hj

theorem OpenKeySound.stay (h : OpenKeySound body g) {l : RequestPhase}
    (hself : StandsOpen g.shared (body c) c l) : OpenKeySound body (g.move c (g.shared, l)) :=
  h.evolve h.shared (EvolvesOpen.refl c _) hself

theorem pending_eq_none (h : ¬ HeldByOther c s) (hholds : NotHolding s c) : s.pending = none := by
  rw [Option.eq_none_iff_forall_ne_some]
  rintro ⟨k, version⟩ hpending
  by_cases hk : k = c
  · exact hholds version (hk ▸ hpending)
  · exact h ⟨_, hpending, hk⟩

/-- **Every statement** of a request that meets the condition keeps the key sound. -/
theorem OpenKeySound.step (h : OpenKeySound body g)
    (hmeets : StepMeets .transactional (body c) g.shared (g.locals c)) :
    OpenKeySound body
      (g.move c (checkOrReserveTransactional (body c) c g.shared (g.locals c))) := by
  have hself := h.locals c
  cases hphase : g.locals c with
  | arriving =>
    rw [hphase] at hself
    exact h.stay hself
  | checking begun =>
    rw [hphase] at hself
    obtain ⟨hidle, hholds⟩ := hself
    rw [checkOrReserveTransactional]
    rcases check_eq g.shared.clock (body c) g.shared.row with
      ⟨-, hcheck⟩ | ⟨r, hrow, hexpired, hcheck⟩ | ⟨r, hrow, hne, hother, hcheck⟩ |
        ⟨r, hrow, hown, hcheck⟩
    · rw [hcheck]
      exact h.stay ⟨hidle, fun version hversion => absurd hversion (hholds version)⟩
    · rw [hcheck]
      refine h.stay ⟨hidle, hholds, h.shared.filed r hrow, fun k q hq hid => ?_,
        fun r' hr' _ => ?_⟩
      · exact (h.shared.version k q hq).2.2 r hrow hid.symm
      · obtain rfl : r = r' := Option.mem_unique hrow hr'
        exact hexpired
    · rw [hcheck]
      exact h.stay ⟨⟨hidle, hne, hother⟩, hholds⟩
    · rw [hcheck]
      -- a committed row has a response
      have hfresh : ¬ isStaleReservation r g.shared.clock :=
        fun hstale => h.shared.answered r hrow hstale.1
      dsimp only
      rw [if_neg hfresh]
      exact h.stay ⟨hidle, hholds⟩
  | deleting recordId begun again =>
    have hstands := hself
    rw [hphase] at hself
    obtain ⟨hidle, hholds, hfiled, hversion, hexpired⟩ := hself
    rw [checkOrReserveTransactional]
    cases hfound : withId recordId g.shared.row with
    | none => exact h.stay ⟨hidle, fun version hversion => absurd hversion (hholds version)⟩
    | some r =>
      obtain ⟨hrow, hid⟩ := withId_eq_some.mp hfound
      dsimp only
      by_cases hheld : HeldByOther c g.shared
      · rw [if_pos hheld]
        exact h.stay (hphase ▸ hstands)
      · rw [if_neg hheld]
        have hpending := pending_eq_none hheld hholds
        refine h.evolve (h.shared.remove (fun k q hq => absurd hq (by simp [hpending])) c
          fun q hq => ?_) (EvolvesOpen.write hheld (fun q' hq' => absurd hq' (by simp)) le_rfl
          (fun _ he => he) fun _ he => .inl he) ⟨hidle, fun version heq => ?_⟩
        · obtain rfl : r = q := Option.mem_unique hrow hq
          exact hexpired r hrow hid
        · exact (Prod.mk.inj (Option.some.inj heq)).2.symm
  | judging record =>
    rw [hphase] at hself
    exact absurd hself id
  | takingOver record now =>
    rw [hphase] at hself
    exact absurd hself id
  | rereading record =>
    rw [hphase] at hself
    exact absurd hself id
  | reserving begun =>
    have hstands := hself
    rw [hphase] at hself
    obtain ⟨hidle, hversion⟩ := hself
    rw [checkOrReserveTransactional]
    by_cases hheld : HeldByOther c g.shared
    · rw [if_pos hheld]
      exact h.stay (hphase ▸ hstands)
    · rw [if_neg hheld]
      by_cases hlost : g.shared.row.isSome ∧ g.shared.pending.isNone
      · rw [if_pos hlost]
        refine h.stay ⟨hidle, fun version hpending => ?_⟩
        exact absurd hlost.2 (by simp [hpending])
      · rw [if_neg hlost]
        have hnone : ∀ k q, g.shared.pending ≠ some (k, some q) := by
          intro k q hpending
          by_cases hk : k = c
          · exact absurd (hversion _ (hk ▸ hpending)) (by simp)
          · exact hheld ⟨_, hpending, hk⟩
        refine h.evolve (h.shared.reserve hnone (fun q hq => ?_) c begun)
          (EvolvesOpen.write hheld (fun q' hq' hlt => ?_) (Nat.le_succ _)
            (fun _ he => List.mem_append_left _ he) fun e he => ?_)
          ⟨⟨_, List.mem_append_right _ (List.mem_singleton_self _), rfl, rfl⟩, _, rfl⟩
        · refine h.shared.superseded
            (Option.isSome_iff_ne_none.mpr fun hopen => hlost ⟨?_, ?_⟩) q hq
          · simp [hq]
          · simp [hopen]
        · obtain rfl := Option.some.inj hq'
          exact absurd hlt (lt_irrefl _)
        · rcases List.mem_append.mp he with he | he
          · exact .inl he
          · exact .inr (congrArg Execution.client (List.mem_singleton.mp he))
  | rechecking =>
    rw [hphase] at hself hmeets
    obtain ⟨hidle, hholds⟩ := hself
    obtain ⟨r, hrow⟩ := Option.isSome_iff_exists.mp hmeets
    rw [checkOrReserveTransactional, hrow]
    dsimp only
    by_cases hother : r.requestHash ≠ "" ∧ r.requestHash ≠ (body c).text
    · rw [if_pos hother]
      exact h.stay ⟨⟨hidle, hother⟩, hholds⟩
    · rw [if_neg hother]
      exact h.stay ⟨hidle, hholds⟩
  | executing held => exact h.stay (hphase ▸ hself)
  | recording held found response =>
    rw [hphase] at hself
    obtain ⟨⟨e, he, hclient, -⟩, q, hpending, hstatus⟩ := hself
    rw [checkOrReserveTransactional, hpending]
    dsimp only
    rw [if_pos rfl]
    exact h.evolve (h.shared.commit hpending hstatus _)
      (EvolvesOpen.close hpending fun _ hr' => .inr hr')
      ⟨⟨e, he, hclient⟩, fun version hversion => absurd hversion (by simp)⟩
  | ended outcome => exact h.stay (hphase ▸ hself)
  | dead => exact h.stay (hphase ▸ hself)

/-! ### Every operation -/

theorem ownVersion_eq (hpending : s.pending = some (c, some q)) : ownVersion c s = some q := by
  rw [ownVersion, hpending, Option.filter_some, if_pos (by simp)]
  rfl

theorem rollback_of_holding (hpending : s.pending = some (c, version)) :
    rollback c s = { s with pending := none, withdrawn := s.withdrawn ++ [c] } := by
  rw [rollback, hpending]
  simp

theorem rollback_of_not_holding (h : NotHolding s c) : rollback c s = s := by
  cases hpending : s.pending with
  | none => exact rollback_of_closed hpending c
  | some p =>
    obtain ⟨k, version⟩ := p
    have hk : k ≠ c := fun hk => h version (hk ▸ hpending)
    rw [rollback, hpending, Option.filter_some, if_pos (decide_eq_true hk), Option.any_some,
      if_neg (by simpa using hk), ← hpending]

theorem OpenKeySound.die (h : OpenKeySound body g)
    (hpending : NotHolding g.shared c ∨ ∃ version, g.shared.pending = some (c, version)) :
    OpenKeySound body (g.move c (rollback c g.shared, .dead)) := by
  rcases hpending with hholds | ⟨version, hpending⟩
  · rw [rollback_of_not_holding hholds]
    exact h.stay hholds
  · rw [rollback_of_holding hpending]
    exact h.evolve (h.shared.withdraw hpending (.inr rfl))
      (EvolvesOpen.close hpending fun _ hr' => .inl hr') fun _ heq => absurd heq (by simp)

theorem holding_or_not (s : IdempotencyStore) (c : ℕ) :
    NotHolding s c ∨ ∃ version, s.pending = some (c, version) := by
  by_cases hversion : ∃ version, s.pending = some (c, version)
  · exact .inr hversion
  · exact .inl fun version heq => hversion ⟨version, heq⟩

/-- **Every operation** that meets the condition keeps the key sound. -/
theorem OpenKeySound.apply (h : OpenKeySound body g) (op : RequestOp)
    (hmeets : Meets .transactional body g op) :
    OpenKeySound body (op.apply .transactional body g) := by
  cases op with
  | tick seconds =>
    exact Config.Sound.reshare h (h.shared.tick seconds) fun j _ hstands =>
      hstands.evolve (EvolvesOpen.tick (j + 1) _ seconds) (Nat.succ_ne_self j).symm
  | step c => exact h.step hmeets
  | finish c response =>
    have hself := h.locals c
    rw [RequestOp.apply, Variant.update]
    cases hphase : g.locals c with
    | executing held =>
      rw [hphase] at hself
      obtain ⟨hexecutes, q, hpending⟩ := hself
      have hmine : ¬ HeldByOther c g.shared := by
        rintro ⟨p, hp, hne⟩
        obtain rfl := Option.mem_unique hpending hp
        exact hne rfl
      rw [updateTransactionalResponse, ownVersion_eq hpending]
      refine h.evolve (h.shared.stage hpending response) (EvolvesOpen.write hmine
        (fun q' hq' _ => ?_) le_rfl (fun _ he => he) fun _ he => .inl he)
        ⟨hexecutes, _, rfl, response.notReservation⟩
      obtain rfl := Option.some.inj hq'
      exact ⟨c, q, hpending, rfl⟩
    | _ => exact h.stay (hphase ▸ hself)
  | release c =>
    have hself := h.locals c
    rw [RequestOp.apply, Variant.release]
    cases hphase : g.locals c with
    | executing held =>
      rw [hphase] at hself
      obtain ⟨⟨e, he, hclient, -⟩, q, hpending⟩ := hself
      rw [releaseTransactional, ownVersion_eq hpending]
      dsimp only
      split_ifs with hreserved
      · exact h.evolve (h.shared.withdraw hpending (.inl rfl))
          (EvolvesOpen.close hpending fun _ hr' => absurd hr' (by simp))
          ⟨⟨e, he, hclient⟩, fun _ heq => absurd heq (by simp)⟩
      · -- its own version is of its body, so it has been answered
        have hstatus : q.responseStatus ≠ reservationStatus :=
          fun hstatus => hreserved ⟨(h.shared.version c q hpending).2.1, hstatus⟩
        exact h.evolve (h.shared.commit hpending hstatus _)
          (EvolvesOpen.close hpending fun _ hr' => .inr hr')
          ⟨⟨e, he, hclient⟩, fun _ heq => absurd heq (by simp)⟩
    | _ => exact h.stay (hphase ▸ hself)
  | die c =>
    have hself := h.locals c
    rw [RequestOp.apply]
    cases hphase : g.locals c with
    | ended outcome => exact h.stay (hphase ▸ hself)
    | _ =>
      rw [Idempotency.die]
      · exact h.die (holding_or_not g.shared c)
      · exact fun outcome heq => RequestPhase.noConfusion heq

theorem OpenKeySound.init (body : ℕ → RequestHash) :
    OpenKeySound body ⟨{}, fun _ => .arriving⟩ := by
  refine ⟨⟨?_, ?_, ?_, ?_, ?_, ?_, List.nodup_nil, List.Pairwise.nil⟩, fun c => ⟨?_, ?_⟩⟩
  · exact fun q hq => absurd hq (by simp)
  · exact fun q hq => absurd hq (by simp)
  · exact fun k q hq => absurd hq (by simp)
  · exact fun hopen => absurd hopen (by simp)
  · exact fun e he => absurd he List.not_mem_nil
  · exact fun e he => absurd he List.not_mem_nil
  · exact fun e he => absurd he List.not_mem_nil
  · exact fun version heq => absurd heq (by simp)

theorem OpenKeySound.executesOnce (h : OpenKeySound body g) : ExecutesOnce body g := by
  refine ⟨h.shared.single, ?_, fun e he taken htaken => ?_, fun e he => (h.shared.known e he).2.2,
    h.shared.alive, fun c outcome hended => ?_, fun c record hphase => ?_⟩
  · have hnone : g.shared.executions.filterMap Execution.takenFrom = [] :=
      List.filterMap_eq_nil_iff.mpr fun e he => (h.shared.known e he).2.1
    rw [hnone]
    exact List.nodup_nil
  · exact absurd ((h.shared.known e he).2.1.symm.trans htaken) (by simp)
  · have hself := h.locals c
    rw [hended] at hself
    exact hself.1
  · have hself := h.locals c
    rw [hphase] at hself
    exact hself.elim

/-! ### Every run -/

/-- **Requests execute once**, in every state of every run, of either variant, whose steps meet the
condition. -/
theorem executesOnce_of_meets (v : Variant)
    (h : (requestSystem v body).ReachableWithin (Meets v body) g) : ExecutesOnce body g := by
  cases v with
  | committing =>
    refine (h.invariant (P := KeySound body) ?_ ?_).executesOnce
    · rintro g rfl
      exact KeySound.init body
    · rintro g op g' hg hmeets rfl
      exact hg.apply op hmeets
  | transactional =>
    refine (h.invariant (P := OpenKeySound body) ?_ ?_).executesOnce
    · rintro g rfl
      exact OpenKeySound.init body
    · rintro g op g' hg hmeets rfl
      exact hg.apply op hmeets

def claimBody : ℕ → RequestHash := fun _ => ⟨"9f86d081", by decide⟩

def createdResponse : RecordedResponse := ⟨201, some "claim 1", by decide⟩

/-- Where operations lead from an empty store. -/
def requestsAfter (v : Variant) (ops : List RequestOp) : RequestConfig :=
  System.after (fun g op => RequestOp.apply v claimBody g op) ⟨{}, fun _ => .arriving⟩ ops

/-- The first request dies, the second one comes after the lease and takes over, and the third one
replays. -/
def takenOverOps : List RequestOp :=
  [.step 0, .step 0, .step 0, .die 0, .tick 901, .step 1, .step 1, .step 1, .step 1,
    .finish 1 createdResponse, .step 1, .step 2, .step 2, .step 2]

theorem executesOnce_of_meets_sample :
    ExecutesOnce claimBody (requestsAfter .committing takenOverOps) := by
  refine executesOnce_of_meets .committing (System.reachableWithin_after rfl ?_)
  refine ⟨trivial, trivial, trivial, trivial, trivial, trivial, trivial, trivial, ⟨_, rfl, rfl⟩,
    trivial, ⟨by decide, fun _ => rfl⟩, trivial, trivial, trivial, trivial⟩

/-- Two requests read no record. One reserves the key, and the insertion of the other is refused:
it finds the reservation of its own body, and executes under it too. -/
theorem lost_insert_executes :
    ¬ ∀ (v : Variant) (body : ℕ → RequestHash) (g : RequestConfig),
      (requestSystem v body).Reachable g → ExecutesOnce body g := by
  intro h
  have hreachable : (requestSystem .committing claimBody).Reachable
      (requestsAfter .committing
        [.step 0, .step 1, .step 0, .step 1, .step 0, .step 1, .step 1]) := by
    refine System.reachable_after ?_ _
    rfl
  have hsingle := (h .committing claimBody _ hreachable).single
  revert hsingle
  decide +kernel

end Transactions

end DotmacErp.Idempotency
