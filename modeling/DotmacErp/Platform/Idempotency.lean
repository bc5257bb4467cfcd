import DotmacErp.Foundation.Processes
import DotmacErp.Foundation.Scripts
import DotmacErp.GL.Models
import Mathlib.Data.Int.Order.Basic

/-!
# API idempotency

Requests under one idempotency key, of one organization and endpoint. A request asks whether the key
already has an outcome and reserves it if it has not (`check_or_reserve_idempotency`), executes, and
records its response over the reservation. The store of the key is the row of `IdempotencyRecord`
it has, at most one by the unique constraint.

A request is a process, and `RequestPhase` is where it stands between two statements: every
statement of the database is a step of its own, with the reading of the clock before it, and any
other requests may come in between. In the first variant every write commits at once
(`checkOrReserve`). In the transactional one the write of a request stays open until the request
ends (`checkOrReserveTransactional`): others read the committed row and wait to write it.

The store also keeps what no code reads: the executions there have been, each with the reservation
it began under (`Execution`), and which of them have recorded a response. Time stamps are numbers of
seconds. The refresh of a row just written is taken with its write. The creation time of a row that
is written with its response is not read by the code, and is the time of the write.
-/

namespace DotmacErp.Idempotency

open Relational

/-! ### Records -/

structure RequestHash where
  text : String
  nonempty : text ≠ ""

/-- `IdempotencyRecord`, the row of one organization, endpoint and key. -/
structure IdempotencyRecord where
  recordId : UUID
  requestHash : String
  responseStatus : ℕ
  responseBody : Option String
  createdAt : ℤ
  expiresAt : ℤ

structure Reservation where
  recordId : UUID
  createdAt : ℤ
  deriving DecidableEq

/-- The hold a row stands for. -/
def IdempotencyRecord.reservation (r : IdempotencyRecord) : Reservation :=
  ⟨r.recordId, r.createdAt⟩

def reservationStatus : ℕ := 202

/-- `RESERVATION_LEASE_MINUTES`, in seconds. -/
def reservationLease : ℤ := 15 * 60

/-- `DEFAULT_TTL_HOURS`, in seconds. -/
def defaultTtl : ℤ := 24 * 60 * 60

structure RecordedResponse where
  status : ℕ
  body : Option String
  notReservation : status ≠ reservationStatus

/-! ### The requests -/

inductive RequestOutcome
  | executed
  | released
  | replayed (status : ℕ) (body : Option String)
  | refused (requestHash : String)
  | failed

/-- Where a request stands. A transaction that has begun at a known time carries it. -/
inductive RequestPhase
  | arriving
  | checking (begun : ℤ)
  | deleting (recordId : UUID) (begun : Option ℤ) (again : Bool)
  | judging (record : IdempotencyRecord)
  | takingOver (record : IdempotencyRecord) (now : ℤ)
  | rereading (record : IdempotencyRecord)
  | reserving (begun : Option ℤ)
  | rechecking
  | executing (reservation : Reservation)
  | recording (reservation : Reservation) (found : Option UUID) (response : RecordedResponse)
  | ended (outcome : RequestOutcome)
  | dead

/-- An execution that began: under which hold, of which one it lapsed to, and with the hash and the
expiry of the row. -/
structure Execution where
  client : ℕ
  reservation : Reservation
  takenFrom : Option Reservation
  recordHash : String
  expiresAt : ℤ
  startedAt : ℤ

/-- The committed row of the key, the row as an open transaction has it, and what no code reads. -/
structure IdempotencyStore where
  row : Option IdempotencyRecord := none
  pending : Option (ℕ × Option IdempotencyRecord) := none
  nextId : UUID := 0
  clock : ℤ := 0
  executions : List Execution := []
  finished : List Reservation := []
  withdrawn : List ℕ := []

abbrev RequestStep := IdempotencyStore × RequestPhase

/-! ### The service -/

def isStaleReservation (record : IdempotencyRecord) (now : ℤ) : Prop :=
  record.responseStatus = reservationStatus ∧ record.createdAt < now - reservationLease

instance (record : IdempotencyRecord) (now : ℤ) : Decidable (isStaleReservation record now) :=
  inferInstanceAs (Decidable (_ ∧ _))

def withId (recordId : UUID) (row : Option IdempotencyRecord) : Option IdempotencyRecord :=
  row.filter (·.recordId = recordId)

/-- The statement of `take_over_reservation`: the row it updates, if it does. -/
def takeOverReservation (recordId : UUID) (now : ℤ) (row : Option IdempotencyRecord) :
    Option IdempotencyRecord :=
  (withId recordId row).filter fun r => isStaleReservation r now

/-- What a request learns from reading the row. -/
inductive CheckAnswer
  | absent
  | expired (recordId : UUID)
  | conflict (requestHash : String)
  | found (record : IdempotencyRecord)

/-- The reading of `check`. An empty stored hash is unknown, not different. -/
def check (now : ℤ) (requestHash : RequestHash) : Option IdempotencyRecord → CheckAnswer
  | none => .absent
  | some r =>
    if r.expiresAt < now then .expired r.recordId
    else if r.requestHash ≠ "" ∧ r.requestHash ≠ requestHash.text then .conflict r.requestHash
    else .found r

/-- The row that `reserve` inserts. -/
def reservationRow (s : IdempotencyStore) (requestHash : RequestHash) (begun : Option ℤ) :
    IdempotencyRecord where
  recordId := s.nextId
  requestHash := requestHash.text
  responseStatus := reservationStatus
  responseBody := some "Request in progress"
  createdAt := begun.getD s.clock
  expiresAt := s.clock + defaultTtl

/-- The row that `update_response` inserts when there is none. -/
def answeredRow (s : IdempotencyStore) (response : RecordedResponse) : IdempotencyRecord where
  recordId := s.nextId
  requestHash := ""
  responseStatus := response.status
  responseBody := response.body
  createdAt := s.clock
  expiresAt := s.clock + defaultTtl

def IdempotencyRecord.answer (r : IdempotencyRecord) (response : RecordedResponse) :
    IdempotencyRecord :=
  { r with
    responseStatus := response.status
    responseBody := response.body }

def begin (c : ℕ) (takenFrom : Option Reservation) (record : IdempotencyRecord)
    (s : IdempotencyStore) : RequestStep :=
  ({ s with
      executions := s.executions ++ [
        { client := c
          reservation := record.reservation
          takenFrom
          recordHash := record.requestHash
          expiresAt := record.expiresAt
          startedAt := s.clock }] },
    .executing record.reservation)

/-! ### Requests that commit each write -/

/-- A statement of `check_or_reserve_idempotency`, of what it calls, and of `update_response`. -/
def checkOrReserve (requestHash : RequestHash) (c : ℕ) (s : IdempotencyStore) :
    RequestPhase → RequestStep
  | .arriving => (s, .checking s.clock)
  | .checking begun =>
    match check s.clock requestHash s.row with
    | .absent => (s, .reserving (some begun))
    | .expired recordId => (s, .deleting recordId none false)
    | .conflict other => (s, .ended (.refused other))
    | .found record => (s, .judging record)
  | .deleting recordId begun again =>
    ({ s with row := s.row.filter (·.recordId ≠ recordId) },
      if again then .ended .failed else .reserving begun)
  | .judging record =>
    (s, if isStaleReservation record s.clock then .takingOver record s.clock
      else .ended (.replayed record.responseStatus record.responseBody))
  | .takingOver record now =>
    match takeOverReservation record.recordId now s.row with
    | some held =>
      let taken := { held with createdAt := now }
      begin c (some held.reservation) taken { s with row := some taken }
    | none => (s, .rereading record)
  | .rereading record =>
    match withId record.recordId s.row with
    | some r => (s, .ended (.replayed r.responseStatus r.responseBody))
    | none => (s, .ended .failed)
  | .reserving begun =>
    match s.row with
    | none =>
      let reserved := reservationRow s requestHash begun
      begin c none reserved { s with row := some reserved, nextId := s.nextId + 1 }
    | some _ => (s, .rechecking)
  | .rechecking =>
    match check s.clock requestHash s.row with
    | .absent => (s, .ended .failed)
    | .expired recordId => (s, .deleting recordId none true)
    | .conflict other => (s, .ended (.refused other))
    -- the record is returned, and its caller does not look at it
    | .found record => begin c none record s
  | .executing reservation => (s, .executing reservation)
  | .recording reservation none response =>
    match s.row with
    | none =>
      ({ s with
          row := some (answeredRow s response)
          nextId := s.nextId + 1
          finished := s.finished ++ [reservation] },
        .ended .executed)
    | some _ => (s, .ended .failed)
  | .recording reservation (some recordId) response =>
    match withId recordId s.row with
    | some r =>
      ({ s with
          row := some (r.answer response)
          finished := s.finished ++ [reservation] },
        .ended .executed)
    | none => (s, .ended .failed)
  | .ended outcome => (s, .ended outcome)
  | .dead => (s, .dead)

/-- The reading of `update_response`. -/
def updateResponse (response : RecordedResponse) (s : IdempotencyStore) :
    RequestPhase → RequestStep
  | .executing reservation => (s, .recording reservation (s.row.map (·.recordId)) response)
  | phase => (s, phase)

/-! ### Requests in one transaction -/

/-- An open transaction of another request has written the row. -/
def HeldByOther (c : ℕ) (s : IdempotencyStore) : Prop := ∃ p ∈ s.pending, p.1 ≠ c

instance (c : ℕ) (s : IdempotencyStore) : Decidable (HeldByOther c s) :=
  inferInstanceAs (Decidable (∃ p ∈ s.pending, p.1 ≠ c))

/-- A statement of `check_or_reserve_transactional_idempotency`, and the commit at the end of the
request. A statement that has to wait does nothing. -/
def checkOrReserveTransactional (requestHash : RequestHash) (c : ℕ) (s : IdempotencyStore) :
    RequestPhase → RequestStep
  | .arriving => (s, .checking s.clock)
  | .checking begun =>
    match check s.clock requestHash s.row with
    | .absent => (s, .reserving (some begun))
    | .expired recordId => (s, .deleting recordId (some begun) false)
    | .conflict other => (s, .ended (.refused other))
    | .found record =>
      (s, if isStaleReservation record s.clock then .takingOver record s.clock
        else .ended (.replayed record.responseStatus record.responseBody))
  | .deleting recordId begun again =>
    match withId recordId s.row with
    | none => (s, .reserving begun)
    | some _ =>
      if HeldByOther c s then (s, .deleting recordId begun again)
      else ({ s with pending := some (c, none) }, .reserving begun)
  | .takingOver record now =>
    match withId record.recordId s.row with
    | none => (s, .ended .failed)
    | some held =>
      if HeldByOther c s then (s, .takingOver record now)
      else
        let taken := { held with createdAt := now }
        begin c (some held.reservation) taken { s with pending := some (c, some taken) }
  | .reserving begun =>
    if HeldByOther c s then (s, .reserving begun)
    else if s.row.isSome ∧ s.pending.isNone then (s, .rechecking)
    else
      let reserved := reservationRow s requestHash begun
      begin c none reserved { s with pending := some (c, some reserved), nextId := s.nextId + 1 }
  | .rechecking =>
    match s.row with
    | none => (s, .ended .failed)
    | some r =>
      (s, if r.requestHash ≠ "" ∧ r.requestHash ≠ requestHash.text then
          .ended (.refused r.requestHash)
        else .ended (.replayed r.responseStatus r.responseBody))
  | .recording reservation found response =>
    match s.pending with
    | some (holder, version) =>
      if holder = c then
        ({ s with
            row := version
            pending := none
            finished := s.finished ++ [reservation] },
          .ended .executed)
      else (s, .recording reservation found response)
    | none => (s, .recording reservation found response)
  | phase => (s, phase)

def ownVersion (c : ℕ) (s : IdempotencyStore) : Option IdempotencyRecord :=
  (s.pending.filter (·.1 = c)).bind Prod.snd

/-- The transaction of a request is rolled back. -/
def rollback (c : ℕ) (s : IdempotencyStore) : IdempotencyStore :=
  { s with
    pending := s.pending.filter (·.1 ≠ c)
    withdrawn := if s.pending.any (·.1 = c) then s.withdrawn ++ [c] else s.withdrawn }

/-- `update_transactional_idempotency_response`. -/
def updateTransactionalResponse (c : ℕ) (response : RecordedResponse) (s : IdempotencyStore) :
    RequestPhase → RequestStep
  | .executing reservation =>
    match ownVersion c s with
    | some r =>
      ({ s with pending := some (c, some (r.answer response)) },
        .recording reservation (some r.recordId) response)
    | none => (rollback c s, .ended .failed)
  | phase => (s, phase)

/-- `release_transactional_idempotency_reservation`, and the commit at the end of the request. -/
def releaseTransactional (requestHash : RequestHash) (c : ℕ) (s : IdempotencyStore) :
    RequestPhase → RequestStep
  | .executing reservation =>
    match ownVersion c s with
    | some r =>
      if r.requestHash = requestHash.text ∧ r.responseStatus = reservationStatus then
        ({ s with row := none, pending := none, withdrawn := s.withdrawn ++ [c] },
          .ended .released)
      else ({ s with row := some r, pending := none }, .ended .released)
    | none => (s, .executing reservation)
  | phase => (s, phase)

/-! ### The system -/

/-- Which of the two an endpoint uses. -/
inductive Variant
  | committing
  | transactional

/-- What may happen next: time passes, a request makes its next statement, an executor records its
response or gives its reservation back, or a request dies. -/
inductive RequestOp
  | tick (seconds : ℕ)
  | step (c : ℕ)
  | finish (c : ℕ) (response : RecordedResponse)
  | release (c : ℕ)
  | die (c : ℕ)

abbrev RequestConfig := Config IdempotencyStore ℕ RequestPhase

def Variant.statement : Variant → RequestHash → ℕ → IdempotencyStore → RequestPhase → RequestStep
  | committing => checkOrReserve
  | transactional => checkOrReserveTransactional

def Variant.update (v : Variant) (c : ℕ) (response : RecordedResponse) :
    IdempotencyStore → RequestPhase → RequestStep :=
  match v with
  | committing => updateResponse response
  | transactional => updateTransactionalResponse c response

def Variant.release (v : Variant) (requestHash : RequestHash) (c : ℕ) (s : IdempotencyStore)
    (phase : RequestPhase) : RequestStep :=
  match v with
  | committing => (s, phase)
  | transactional => releaseTransactional requestHash c s phase

def die (c : ℕ) (s : IdempotencyStore) : RequestPhase → RequestStep
  | .ended outcome => (s, .ended outcome)
  | _ => (rollback c s, .dead)

def RequestOp.apply (v : Variant) (body : ℕ → RequestHash) (g : RequestConfig) :
    RequestOp → RequestConfig
  | tick seconds => ⟨{ g.shared with clock := g.shared.clock + seconds }, g.locals⟩
  | step c => g.move c (v.statement (body c) c g.shared (g.locals c))
  | finish c response => g.move c (v.update c response g.shared (g.locals c))
  | release c => g.move c (v.release (body c) c g.shared (g.locals c))
  | die c => g.move c (Idempotency.die c g.shared (g.locals c))

def requestSystem (v : Variant) (body : ℕ → RequestHash) : System RequestConfig RequestOp :=
  System.ofFunction (fun g => g = ⟨{}, fun _ => .arriving⟩) fun g op => op.apply v body g

end DotmacErp.Idempotency
